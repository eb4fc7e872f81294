import CatalogSearch.Proofs.Gateway.Dispatch
import CatalogSearch.Proofs.Json.OneField

/-! # What sources report when asked for their subjects

A source reports a name if it answers in time, with a list of entries one of which has this name.
The list may stand alone or under `subjects`, and that makes no difference.

* **`SubjectEntry.Reads`**, **`SubjectList.Items`**: entries of lists, and lists;
* **`SubjectList.decode_eq_ok_iff`**: what is read of an answer;
* **`SubjectList.Offers`**, **`Gateway.Reports`**: names in an answer, and names that a source
  reports;
* **`Gateway.exists_subjects`**: the names of many sources are those that any of them reports. -/

namespace CatalogSearch

/-! ## Entries -/

/-- **An entry of a list of subjects**: a record whose name is left out, null, or a string. -/
inductive SubjectEntry.Reads (v : Json) : SubjectEntry → Prop where
  | unnamed (h : v.HasField "name" none) : Reads v ⟨none⟩
  | null (h : v.HasField "name" (some .null)) : Reads v ⟨none⟩
  | named (name : String) (h : v.HasField "name" (some (.string name))) : Reads v ⟨some name⟩

/-- A string that may be missing is null or a string. -/
theorem Codec.optional_text_eq_ok_iff {around : Nat} {v : Json} {a : Option String} :
    (Codec.optional Codec.text).decode around v = .ok a ↔
      (v = .null ∧ a = none) ∨ ∃ s, v = .string s ∧ a = some s := by
  cases v with
  | null => simp [optional, eq_comm]
  | string s =>
    show Except.ok (some s) = _ ↔ _
    simp [eq_comm]
  | _ =>
    constructor
    · rintro ⟨⟩
    · rintro (⟨⟨⟩, -⟩ | ⟨_, ⟨⟩, -⟩)

/-- **What is read of an entry** that is plain. -/
theorem SubjectEntry.decode_eq_ok_iff {around : Nat} {v : Json} {e : SubjectEntry}
    (hplain : v.isPlain = true) : codec.decode around v = .ok e ↔ Reads v e := by
  rw [codec, Codec.record_one_eq_ok_iff rfl hplain]
  constructor
  · rintro (⟨hfield, rfl⟩ | ⟨w, set, hfield, hset, rfl⟩)
    · exact .unnamed hfield
    · obtain ⟨name, hname, rfl⟩ := map_eq_ok_iff.mp hset
      rcases Codec.optional_text_eq_ok_iff.mp hname with ⟨rfl, rfl⟩ | ⟨s, rfl, rfl⟩
      · exact .null hfield
      · exact .named s hfield
  · intro h
    cases h with
    | unnamed hfield => exact Or.inl ⟨hfield, rfl⟩
    | null hfield => exact Or.inr ⟨_, _, hfield, rfl, rfl⟩
    | named name hfield => exact Or.inr ⟨_, _, hfield, rfl, rfl⟩

/-! ## Lists -/

namespace SubjectList

/-- **The items of an answer**: those of a list, or of a list that is the only member `subjects`. -/
inductive Items : Json → List Json → Prop where
  | bare (items : List Json) : Items (.array items) items
  | wrapped (members : List (String × Json)) (items : List Json)
      (h : Json.OnlyMember members "subjects" (.array items)) : Items (.object members) items

/-- What is read of a plain list are its items, one by one. -/
theorem decode_list_eq_ok_iff {around : Nat} {v : Json} {entries : List SubjectEntry}
    (hplain : v.isPlain = true) :
    (Codec.list SubjectEntry.codec).decode around v = .ok entries ↔
      ∃ items, v = .array items ∧ List.Forall₂ SubjectEntry.Reads items entries := by
  cases v with
  | array items =>
    show items.mapM _ = _ ↔ _
    rw [mapM_eq_ok_iff_of_mem fun item hitem _ =>
      SubjectEntry.decode_eq_ok_iff (Json.isPlain_of_mem hplain hitem)]
    constructor
    · intro h
      exact ⟨items, rfl, h⟩
    · rintro ⟨_, ⟨⟩, h⟩
      exact h
  | _ =>
    constructor
    · rintro ⟨⟩
    · rintro ⟨_, ⟨⟩, -⟩

/-- **What is read of an answer**: its items, if all of them are entries and nothing in it is
wrong. -/
theorem decode_eq_ok_iff {v : Json} {entries : List SubjectEntry} :
    decode v = .ok entries ↔
      v.isFree 0 = true ∧ ∃ items, Items v items ∧
        List.Forall₂ SubjectEntry.Reads items entries := by
  unfold decode
  by_cases hfree : v.isFree 0 = true
  · have hplain : v.isPlain = true := by
      rw [Json.isFree, Bool.and_eq_true] at hfree
      exact hfree.1
    rw [if_pos hfree]
    -- A list is read as it is, and an object for its one member; nothing else has items.
    cases v with
    | array items =>
      show (Codec.list SubjectEntry.codec).decode 0 (.array items) = _ ↔ _
      rw [decode_list_eq_ok_iff hplain]
      constructor
      · rintro ⟨_, ⟨⟩, h⟩
        exact ⟨hfree, items, .bare items, h⟩
      · rintro ⟨-, _, ⟨⟩, h⟩
        exact ⟨items, rfl, h⟩
    | object members =>
      show wrapped.decode 0 (.object members) = _ ↔ _
      rw [wrapped, Codec.record_one_object_eq_ok_iff hplain]
      constructor
      · rintro (⟨-, habsence, -⟩ | ⟨w, set, honly, hset, rfl⟩)
        · exact absurd rfl habsence
        · obtain ⟨entries, hentries, rfl⟩ := map_eq_ok_iff.mp hset
          obtain ⟨items, rfl, h⟩ :=
            (decode_list_eq_ok_iff (Json.isPlain_of_mem_members hplain honly.mem)).mp hentries
          exact ⟨hfree, items, .wrapped members items honly, h⟩
      · rintro ⟨-, items, hitems, h⟩
        cases hitems with
        | wrapped _ _ honly =>
          refine Or.inr ⟨.array items, fun _ => entries, honly, ?_, rfl⟩
          refine map_eq_ok_iff.mpr ⟨entries, ?_, rfl⟩
          have hlist := Json.isPlain_of_mem_members hplain honly.mem
          exact (decode_list_eq_ok_iff hlist).mpr ⟨items, rfl, h⟩
    | _ =>
      constructor
      · rintro ⟨⟩
      · rintro ⟨-, _, ⟨⟩, -⟩
  · rw [if_neg hfree]
    constructor
    · rintro ⟨⟩
    · rintro ⟨h, -⟩
      exact absurd h hfree

/-- **A name in an answer**: nothing follows the answer, nothing in it is wrong, its items are
entries, and one of them has this name. -/
structure Offers (doc : Json.Document) (name : String) : Prop where
  complete : doc.trailing = false
  free : doc.root.isFree 0 = true
  entry : ∃ items entries, Items doc.root items ∧ List.Forall₂ SubjectEntry.Reads items entries ∧
    ⟨some name⟩ ∈ entries

/-- **A list under `subjects` is read as the list alone.** -/
theorem offers_wrapped_iff {members : List (String × Json)} {items : List Json}
    (hfree : (Json.object members).isFree 0 = true)
    (honly : Json.OnlyMember members "subjects" (.array items)) {trailing : Bool} {name : String} :
    Offers ⟨.object members, trailing⟩ name ↔ Offers ⟨.array items, trailing⟩ name := by
  have hitems : (Json.array items).isFree 0 = true := by
    rw [Json.isFree, Bool.and_eq_true, decide_eq_true_eq] at hfree ⊢
    have hdepth : (Json.array items).depth ≤ Json.depthOfMembers members :=
      Json.depth_le_depthOfMembers honly.mem
    rw [Json.depth] at hfree
    exact ⟨Json.isPlain_of_mem_members hfree.1 honly.mem, by omega⟩
  constructor
  · rintro ⟨htrailing, -, items', entries, hwrapped, hreads, hmem⟩
    -- There is one list under `subjects` only.
    cases hwrapped with
    | wrapped _ _ honly' =>
      have hsame := List.cons.inj (honly.symm.trans honly')
      obtain ⟨-, ⟨⟩⟩ := Prod.mk.inj hsame.1
      exact ⟨htrailing, hitems, items, entries, .bare items, hreads, hmem⟩
  · rintro ⟨htrailing, -, items', entries, hbare, hreads, hmem⟩
    cases hbare with
    | bare _ =>
      exact ⟨htrailing, hfree, items, entries, .wrapped members items honly, hreads, hmem⟩

/-- A name that is not blank is among those of some entries if one of them has it. -/
theorem mem_names {entries : List SubjectEntry} {name : String} (hname : Text.blank name = false) :
    name ∈ names entries ↔ ⟨some name⟩ ∈ entries := by
  rw [names, List.mem_filter, List.mem_filterMap]
  constructor
  · rintro ⟨⟨e, he, hsome⟩, -⟩
    obtain ⟨n⟩ := e
    obtain rfl : n = some name := hsome
    exact he
  · intro h
    exact ⟨⟨_, h, rfl⟩, by simp [hname]⟩

end SubjectList

/-! ## Sources -/

namespace Gateway

/-- **A name that a source reports**: there is a URL that can be asked, the answer comes in time, is
a success with a body, and has the name. -/
inductive Reports (g : Gateway) (s : Source) (name : String) : Prop where
  | answered (url : Url) (millis : Nat) (r : Response) (bytes : List UInt8)
      (hurl : s.subjectsUrl g.settings = .ok url) (hreachable : url.isReachable = true)
      (hreply : g.network url.requested = .answered millis r)
      (htime : millis ≤ g.settings.timeoutMillis) (hstatus : r.status.isSuccess = true)
      (hbody : r.body = some bytes) (hoffers : SubjectList.Offers (Json.readBytes bytes) name)

variable {g : Gateway} {s : Source} {c : Call} {name : String}

/-- The document of an answer has a name that is not blank if it is read so. -/
theorem exists_names_iff_offers (hname : Text.blank name = false) {doc : Json.Document} :
    (∃ entries, SubjectList.readDocument doc = .ok entries ∧
        name ∈ SubjectList.names entries) ↔ SubjectList.Offers doc name := by
  constructor
  · rintro ⟨entries, hentries, hmem⟩
    obtain ⟨entries', hdecode, hend⟩ := bind_eq_ok_iff.mp hentries
    cases htrailing : doc.trailing with
    | true =>
      rw [htrailing] at hend
      cases hend
    | false =>
      rw [htrailing] at hend
      cases hend
      obtain ⟨hfree, items, hitems, hreads⟩ := SubjectList.decode_eq_ok_iff.mp hdecode
      rw [SubjectList.mem_names hname] at hmem
      exact ⟨htrailing, hfree, items, entries, hitems, hreads, hmem⟩
  · rintro ⟨htrailing, hfree, items, entries, hitems, hreads, hmem⟩
    refine ⟨entries, bind_eq_ok_iff.mpr ⟨entries, ?_, ?_⟩, (SubjectList.mem_names hname).mpr hmem⟩
    · exact SubjectList.decode_eq_ok_iff.mpr ⟨hfree, items, hitems, hreads⟩
    · rw [htrailing]
      rfl

/-- What a call yields if nobody cancels. -/
theorem mem_yielded_readSubjects :
    name ∈ g.yielded none readSubjects c ↔
      ∃ names, (g.response c).bind (readSubjects c) = .ok names ∧ name ∈ names := by
  have htime : g.inTime none c = true := rfl
  rw [yielded, if_pos htime]
  cases (g.response c).bind (readSubjects c) with
  | error e =>
    constructor
    · rintro ⟨⟩
    · rintro ⟨_, ⟨⟩, -⟩
  | ok names =>
    constructor
    · intro h
      exact ⟨names, rfl, h⟩
    · rintro ⟨_, ⟨⟩, h⟩
      exact h

/-- **A call yields the names that its source reports**, as far as they are not blank. -/
theorem mem_yielded_iff_reports (hcall : g.subjectsCall s = .ok c)
    (hname : Text.blank name = false) :
    name ∈ g.yielded none readSubjects c ↔ g.Reports s name := by
  obtain ⟨url, hurl, rfl⟩ := map_eq_ok_iff.mp hcall
  rw [mem_yielded_readSubjects]
  constructor
  · rintro ⟨names, hread, hmem⟩
    obtain ⟨hreachable, millis, r, hreply, htime, hread⟩ := response_bind_eq_ok_iff.mp hread
    obtain ⟨entries, hbody, rfl⟩ := map_eq_ok_iff.mp hread
    obtain ⟨hstatus, bytes, hbytes, hentries⟩ := readBody_eq_ok_iff.mp hbody
    exact .answered url millis r bytes hurl hreachable hreply htime hstatus hbytes
      ((exists_names_iff_offers hname).mp ⟨entries, hentries, hmem⟩)
  · rintro ⟨url', millis, r, bytes, hurl', hreachable, hreply, htime, hstatus, hbytes, hoffers⟩
    rw [hurl] at hurl'
    cases hurl'
    obtain ⟨entries, hentries, hmem⟩ := (exists_names_iff_offers hname).mpr hoffers
    refine ⟨_, response_bind_eq_ok_iff.mpr ⟨hreachable, millis, r, hreply, htime, ?_⟩, hmem⟩
    refine map_eq_ok_iff.mpr ⟨entries, readBody_eq_ok_iff.mpr ?_, rfl⟩
    exact ⟨hstatus, bytes, hbytes, hentries⟩

/-- Many sources can be asked if each of them can. -/
theorem exists_calls_subjects {sources : List Source}
    (hurls : ∀ s ∈ sources, ∃ url, s.subjectsUrl g.settings = .ok url) :
    ∃ calls, sources.mapM g.subjectsCall = .ok calls := by
  cases hcalls : sources.mapM g.subjectsCall with
  | ok calls => exact ⟨calls, rfl⟩
  | error e =>
    obtain ⟨before, s, after, rfl, -, hs⟩ := mapM_eq_error_iff.mp hcalls
    obtain ⟨url, hurl⟩ := hurls s (by simp)
    rw [subjectsCall, hurl] at hs
    cases hs

/-- What calls for subjects yield together. -/
theorem result_subjects {sources : List Source} {calls : List Call}
    (hcalls : sources.mapM g.subjectsCall = .ok calls) (cancel : Cancellation) :
    (g.subjects sources cancel).result =
      .ok (calls.map (g.yielded cancel readSubjects)).flatten.eraseDups := by
  rw [subjects, hcalls, Run.ofExcept_ok_bind]
  rfl

/-- **The names of many sources** that can be asked are those that any of them reports. -/
theorem exists_subjects {sources : List Source}
    (hurls : ∀ s ∈ sources, ∃ url, s.subjectsUrl g.settings = .ok url) :
    ∃ names, (g.subjects sources none).result = .ok names ∧
      ∀ name, Text.blank name = false → (name ∈ names ↔ ∃ s ∈ sources, g.Reports s name) := by
  obtain ⟨calls, hcalls⟩ := exists_calls_subjects hurls
  refine ⟨_, result_subjects hcalls none, fun name hname => ?_⟩
  have hmade := fun c => mem_iff_of_mapM_eq_ok hcalls (b := c)
  rw [List.mem_eraseDups, List.mem_flatten]
  constructor
  · rintro ⟨_, hyield, hmem⟩
    obtain ⟨c, hc, rfl⟩ := List.mem_map.mp hyield
    obtain ⟨s, hs, hcall⟩ := (hmade c).mp hc
    exact ⟨s, hs, (mem_yielded_iff_reports hcall hname).mp hmem⟩
  · rintro ⟨s, hs, hreports⟩
    obtain ⟨url, hurl⟩ := hurls s hs
    have hcall : g.subjectsCall s = .ok ⟨s, url⟩ := map_eq_ok_iff.mpr ⟨url, hurl, rfl⟩
    exact ⟨_, List.mem_map_of_mem ((hmade _).mpr ⟨s, hs, hcall⟩),
      (mem_yielded_iff_reports hcall hname).mpr hreports⟩

end Gateway

end CatalogSearch
