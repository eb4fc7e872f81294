import CatalogSearch.Filter.Encode
import CatalogSearch.Proofs.Attempt
import CatalogSearch.Proofs.Filter.Stated
import Mathlib.Data.List.ReduceOption
import Mathlib.Data.List.Zip

/-! # Requests without a filter

A filter has no way to write a single quote inside a value, nor a comma inside one of several values
of a choice. Requests that ask for either are refused, and no others are: the failure names the
first field that cannot be written and its first value at fault, and is the same in every dialect.

* **`FilterField.Unsayable`**: what a filter cannot say of the values of a field;
* **`FilterField.Defies`**: texts given for a field that no filter can state;
* **`clausesOf_eq_error_iff`**: a request is refused for the first field that is unsayable;
* **`filter_eq_error_iff`**: which requests are refused, and why. -/

namespace CatalogSearch

/-! ## Values at fault -/

/-- The first of some values that has a given character. -/
def FirstWith (c : Char) (values : List String) (bad : String) : Prop :=
  c ∈ bad.toList ∧ ∃ before after, values = before ++ bad :: after ∧ ∀ v ∈ before, c ∉ v.toList

/-- The first value with a character is the one that is found. -/
theorem firstWith?_eq_some_iff {c : Char} {values : List String} {bad : String} :
    firstWith? c values = some bad ↔ FirstWith c values bad := by
  rw [firstWith?, List.find?_eq_some_iff_append, FirstWith, List.contains_iff_mem]
  refine and_congr_right fun _ => exists_congr fun before => exists_congr fun after => ?_
  refine and_congr_right fun _ => forall₂_congr fun v _ => ?_
  rw [Bool.not_eq_true', ← Bool.not_eq_true, List.contains_iff_mem]

/-- No value with a character is found if none has it. -/
theorem firstWith?_eq_none_iff {c : Char} {values : List String} :
    firstWith? c values = none ↔ ∀ v ∈ values, c ∉ v.toList := by
  rw [firstWith?, List.find?_eq_none]
  refine forall₂_congr fun v _ => ?_
  rw [List.contains_iff_mem]

/-- There is a first value with a character if any value has it. -/
theorem exists_firstWith_iff {c : Char} {values : List String} :
    (∃ bad, FirstWith c values bad) ↔ ∃ v ∈ values, c ∈ v.toList := by
  simp only [← firstWith?_eq_some_iff, ← Option.ne_none_iff_exists', ne_eq, firstWith?_eq_none_iff,
    not_forall, not_not, exists_prop]

namespace FilterField

/-- **What a filter cannot say of the values of a field**: a single quote, in the first of the
values that has one; or else, where the values make a choice, a comma. -/
inductive Unsayable (f : FilterField) (values : List String) : EncodingFault → Prop where
  | singleQuote {bad : String} (hbad : FirstWith Clause.quote values bad) :
    Unsayable f values ⟨f.key, .singleQuote bad⟩
  | comma {bad : String} (hquote : ∀ v ∈ values, Clause.quote ∉ v.toList)
      (hchoice : f.isChoice = true) (hseveral : 1 < values.length)
      (hbad : FirstWith Clause.comma values bad) :
    Unsayable f values ⟨f.key, .comma bad⟩

variable {f : FilterField} {values given : List String} {e : EncodingFault}

/-- **A field has no clause for values that cannot be said**, and a clause or none for all
others. -/
theorem clause_eq_error_iff : f.clause values = .error e ↔ f.Unsayable values e := by
  simp only [clause]
  constructor
  · intro h
    split at h
    · next bad hquote =>
      cases h
      exact .singleQuote (firstWith?_eq_some_iff.mp hquote)
    · next bad hquote hcomma =>
      split at h
      · next hgroup =>
        cases h
        rw [Bool.and_eq_true, decide_eq_true_eq] at hgroup
        exact .comma (firstWith?_eq_none_iff.mp hquote) hgroup.1 hgroup.2
          (firstWith?_eq_some_iff.mp hcomma)
      · cases h
    · cases h
  · rintro (⟨hbad⟩ | ⟨hquote, hchoice, hseveral, hbad⟩)
    · rw [firstWith?_eq_some_iff.mpr hbad]
    · rw [firstWith?_eq_none_iff.mpr hquote, firstWith?_eq_some_iff.mpr hbad, hchoice,
        decide_eq_true hseveral]
      rfl

/-- A field for one value is only at fault for a quote. -/
theorem not_unsayable_of_forall (hchoice : f.isChoice = false)
    (hquote : ∀ v ∈ values, Clause.quote ∉ v.toList) (e : EncodingFault) :
    ¬ f.Unsayable values e := by
  rintro (⟨hbad, before, after, rfl, -⟩ | ⟨-, hchoice', -, -⟩)
  · exact hquote _ (List.mem_append_right before List.mem_cons_self) hbad
  · rw [hchoice] at hchoice'
    cases hchoice'

/-- **Texts given for a field that no filter can state**: one with a single quote, or two different
ones of a choice, of which one has a comma. -/
inductive Defies (f : FilterField) (given : List String) : Prop where
  | singleQuote {v : String} (hv : v ∈ given) (hquote : Clause.quote ∈ v.toList)
  | comma {v w : String} (hchoice : f.isChoice = true) (hv : v ∈ given) (hw : w ∈ given)
      (hne : v ≠ w) (hblank : Text.blank v = false) (hblank' : Text.blank w = false)
      (hcomma : Clause.comma ∈ v.toList)

/-- What is stated has been given and is not blank. -/
theorem mem_stated {v : String} : v ∈ stated given ↔ v ∈ given ∧ Text.blank v = false := by
  rw [stated, List.mem_eraseDups, List.mem_filter, Bool.not_eq_true']

/-- A filter cannot say the values that given texts state if it cannot state the texts. -/
theorem exists_unsayable_stated_iff : (∃ e, f.Unsayable (stated given) e) ↔ f.Defies given := by
  have hnodup : (stated given).Nodup := nodup_eraseDups _
  have hfilled {c : Char} {v : String} (hwhite : Text.isWhite c = false) (hc : c ∈ v.toList) :
      Text.blank v = false := Text.isBlank_eq_false_of_mem hc hwhite
  constructor
  · rintro ⟨e, ⟨hbad⟩ | ⟨-, hchoice, hseveral, hbad⟩⟩
    · obtain ⟨v, hv, hquote⟩ := exists_firstWith_iff.mp ⟨_, hbad⟩
      exact .singleQuote (mem_stated.mp hv).1 hquote
    · obtain ⟨v, hv, hcomma⟩ := exists_firstWith_iff.mp ⟨_, hbad⟩
      obtain ⟨w, hw, hne⟩ := (one_lt_length_iff hnodup hv).mp hseveral
      obtain ⟨hv, hblank⟩ := mem_stated.mp hv
      obtain ⟨hw, hblank'⟩ := mem_stated.mp hw
      exact .comma hchoice hv hw hne hblank hblank' hcomma
  · intro h
    -- A quote is looked for first.
    by_cases hquote : ∃ v ∈ stated given, Clause.quote ∈ v.toList
    · obtain ⟨bad, hbad⟩ := exists_firstWith_iff.mpr hquote
      exact ⟨_, .singleQuote hbad⟩
    · rcases h with ⟨hv, hv'⟩ | ⟨hchoice, hv, hw, hne, hblank, hblank', hcomma⟩
      · exact absurd ⟨_, mem_stated.mpr ⟨hv, hfilled (by decide) hv'⟩, hv'⟩ hquote
      · have hmem := mem_stated.mpr ⟨hv, hblank⟩
        obtain ⟨bad, hbad⟩ := exists_firstWith_iff.mpr ⟨_, hmem, hcomma⟩
        have hseveral := (one_lt_length_iff hnodup hmem).mpr ⟨_, mem_stated.mpr ⟨hw, hblank'⟩, hne⟩
        exact ⟨_, .comma (fun v hv hv' => hquote ⟨v, hv, hv'⟩) hchoice hseveral hbad⟩

end FilterField

/-! ## All fields -/

namespace SearchRequest

variable {d : Dialect} {r : SearchRequest} {e : EncodingFault}

/-- The clauses of some fields are made one by one. -/
theorem clausesOf_eq_mapM (d : Dialect) (r : SearchRequest) (fields : List FilterField) :
    r.clausesOf d fields =
      (fields.mapM fun (f : FilterField) => f.clause (f.values d r)).map List.reduceOption := by
  induction fields with
  | nil => rfl
  | cons f fields ih =>
    rw [clausesOf, List.mapM_cons, ih]
    cases f.clause (f.values d r) with
    | error fault => rfl
    | ok c =>
      cases fields.mapM fun (f : FilterField) => f.clause (f.values d r) with
      | error fault => rfl
      | ok clauses => cases c <;> rfl

/-- **A request is refused for the first field** whose values a filter cannot say. -/
theorem clausesOf_eq_error_iff {fields : List FilterField} :
    r.clausesOf d fields = .error e ↔
      FirstFault (fun f e => f.Unsayable (f.values d r) e) fields e := by
  rw [clausesOf_eq_mapM, map_eq_error_iff, mapM_eq_error_iff]
  exact firstFault_congr fun f _ e => FilterField.clause_eq_error_iff

/-- A request has no filter if it has no clauses. -/
theorem filter_eq_error_iff_firstFault :
    r.filter d = .error e ↔
      FirstFault (fun f e => f.Unsayable (f.values d r) e) FilterField.all e := by
  rw [filter, map_eq_error_iff, clauses, clausesOf_eq_error_iff]

/-- The fields with their values are the fields with what is stated for them. -/
theorem map_values_eq_map_stated (d : Dialect) (r : SearchRequest) :
    (FilterField.all.map fun f => (f, f.values d r)) =
      (FilterField.all.zip (r.given d)).map fun p => (p.1, stated p.2) := by
  rw [List.map_prod_left_eq_zip, values_eq_stated, List.zip_map_right]
  rfl

end SearchRequest

/-! ## Dialects -/

/-- No type of school has a quote in its label. -/
theorem SchoolType.quote_not_mem_labelIn (d : Dialect) (t : SchoolType) :
    Clause.quote ∉ (t.labelIn d).toList := by
  have hlabels : ∀ t ∈ (Vocabulary.terms : List SchoolType),
      Clause.quote ∉ t.term.label.toList := by
    decide +kernel
  unfold labelIn
  split
  · decide +kernel
  · decide +kernel
  · exact hlabels t (mem_terms t)

/-- No type of learning resource has a quote in its label. -/
theorem LearningResourceType.quote_not_mem_labelIn (d : Dialect) (t : LearningResourceType) :
    Clause.quote ∉ (t.labelIn d).toList := by
  have hlabels : ∀ t ∈ (Vocabulary.terms : List LearningResourceType),
      Clause.quote ∉ t.term.label.toList := by
    decide +kernel
  unfold labelIn
  split
  · decide +kernel
  · decide +kernel
  · decide +kernel
  · exact hlabels t (mem_terms t)

namespace FilterField

variable (d d' : Dialect) (r : SearchRequest)

/-- The field for free text. -/
def search : FilterField := ⟨"search", .one fun _ r => r.search.bind searchValue?⟩

/-- The field for names, which has the free text in one dialect and nothing in the other. -/
def name : FilterField :=
  ⟨"name", .one fun d r => if d = .duf then r.search.bind searchValue? else none⟩

/-- The fields in order start with free text and names. -/
theorem all_eq : all = search :: name :: all.drop 2 := rfl

/-- Names are never at fault where free text is not. -/
theorem not_unsayable_name (h : ∀ e, ¬ search.Unsayable (search.values d r) e) (e : EncodingFault) :
    ¬ name.Unsayable (name.values d r) e := by
  refine not_unsayable_of_forall rfl (fun v hv hquote => ?_) e
  obtain ⟨bad, hbad⟩ : ∃ bad, FirstWith Clause.quote (search.values d r) bad := by
    refine exists_firstWith_iff.mpr ⟨v, ?_, hquote⟩
    rw [name, values_one] at hv
    by_cases hd : d = .duf
    · rw [if_pos hd] at hv
      exact hv
    · rw [if_neg hd] at hv
      cases hv
  exact h _ (.singleQuote hbad)

/-- A field for labels without quotes is never at fault. -/
theorem not_unsayable_labels {α : Type} {read : Dialect → α → String}
    (hread : ∀ d a, Clause.quote ∉ (read d a).toList) (key : String)
    (get : SearchRequest → Option α) (e : EncodingFault) :
    ¬ (⟨key, .one fun d r => (get r).map (read d)⟩ : FilterField).Unsayable
      ((get r).map (read d)).toList e := by
  refine not_unsayable_of_forall rfl (fun v hv => ?_) e
  obtain ⟨a, -, rfl⟩ := Option.map_eq_some_iff.mp (Option.mem_toList.mp hv)
  exact hread d a

/-- After free text and names no field is at fault in one dialect only. -/
theorem unsayable_iff_of_mem_drop {f : FilterField} (hf : f ∈ all.drop 2) (e : EncodingFault) :
    f.Unsayable (f.values d r) e ↔ f.Unsayable (f.values d' r) e := by
  have hall : ∀ f ∈ all.drop 2, ∀ e,
      f.Unsayable (f.values d r) e ↔ f.Unsayable (f.values d' r) e := by
    simp only [all, List.drop_succ_cons, List.drop_zero, List.forall_mem_cons, values_text,
      values_objective, values_terms, term, values_one, values_anyOf, iff_self, implies_true,
      true_and, List.not_mem_nil, false_imp_iff]
    -- What is left are the fields whose labels depend on the dialect.
    refine ⟨fun e => iff_of_false ?_ ?_, fun e => iff_of_false ?_ ?_, trivial⟩
    · exact not_unsayable_labels d r LearningResourceType.quote_not_mem_labelIn _ _ e
    · exact not_unsayable_labels d' r LearningResourceType.quote_not_mem_labelIn _ _ e
    · exact not_unsayable_labels d r SchoolType.quote_not_mem_labelIn _ _ e
    · exact not_unsayable_labels d' r SchoolType.quote_not_mem_labelIn _ _ e
  exact hall f hf e

/-- **A request is at fault for the same field and value in every dialect.** -/
theorem firstFault_iff_of_dialects {e : EncodingFault} :
    FirstFault (fun f e => f.Unsayable (f.values d r) e) all e ↔
      FirstFault (fun f e => f.Unsayable (f.values d' r) e) all e := by
  have hname (d : Dialect) :
      FirstFault (fun f e => f.Unsayable (f.values d r) e) all e ↔
        search.Unsayable (search.values d r) e ∨
          (∀ e, ¬ search.Unsayable (search.values d r) e) ∧
            FirstFault (fun f e => f.Unsayable (f.values d r) e) (all.drop 2) e := by
    rw [all_eq, firstFault_cons_iff, firstFault_cons_iff]
    refine or_congr_right (and_congr_right fun hsearch => ?_)
    have hnone := not_unsayable_name d r hsearch
    simp only [hnone, false_or, not_false_eq_true, implies_true, true_and]
    rfl
  have hsearch : search.values d r = search.values d' r := rfl
  rw [hname d, hname d', hsearch,
    firstFault_congr fun f hf e => unsayable_iff_of_mem_drop d d' r hf e]

end FilterField

/-! ## Refusal -/

/-- **A request is refused exactly if no filter can state what it gives**: a text with a single
quote, or several different texts of a choice, of which one has a comma. The failure is that of the
first field, in order, whose values a filter cannot say; it names the first of these values with a
quote, or with a comma if none has a quote. It is the same in every dialect. -/
theorem filter_eq_error_iff (d : Dialect) (r : SearchRequest) :
    ((∃ e, r.filter d = .error e) ↔
        ∃ p ∈ FilterField.all.zip (r.given d), p.1.Defies p.2) ∧
      (∀ e, r.filter d = .error e ↔
        FirstFault (fun p e => p.1.Unsayable (stated p.2) e)
          (FilterField.all.zip (r.given d)) e) ∧
      ∀ d' e, r.filter d = .error e ↔ r.filter d' = .error e := by
  have hfirst (e : EncodingFault) : r.filter d = .error e ↔
      FirstFault (fun p e => p.1.Unsayable (stated p.2) e)
        (FilterField.all.zip (r.given d)) e := by
    have hpairs : FirstFault (fun p e => p.1.Unsayable p.2 e)
          (FilterField.all.map fun f => (f, f.values d r)) e ↔
        FirstFault (fun p e => p.1.Unsayable p.2 e)
          ((FilterField.all.zip (r.given d)).map fun p => (p.1, stated p.2)) e := by
      rw [SearchRequest.map_values_eq_map_stated]
    rw [firstFault_map_iff, firstFault_map_iff] at hpairs
    rw [SearchRequest.filter_eq_error_iff_firstFault]
    exact hpairs
  refine ⟨?_, hfirst, fun d' e => ?_⟩
  · simp only [hfirst, exists_firstFault_iff, FilterField.exists_unsayable_stated_iff]
  · rw [SearchRequest.filter_eq_error_iff_firstFault, SearchRequest.filter_eq_error_iff_firstFault,
      FilterField.firstFault_iff_of_dialects d d' r]

/-- Quotes are looked for before commas, and in the fields in order. -/
example : ({ id := ["a,b", "c'"], author := some "d'" } : SearchRequest).filter .duf =
    .error ⟨"id", .singleQuote "c'"⟩ := by
  decide +kernel

/-- A text that is given twice is one value, which may have a comma. -/
example : ({ id := ["a,b", " ", "a,b"] } : SearchRequest).filter .duf =
    .ok "id='a,b'".toList := by
  decide +kernel

end CatalogSearch
