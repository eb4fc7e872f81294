import CatalogSearch.Proofs.Attempt
import CatalogSearch.Proofs.Filter.Sayable

/-! # The language of filters

A text is a filter if it is made of clauses with a separator between neighbours, and of nothing
else. Reading accepts all filters, and one kind of text more: a filter after which the separator
stands once again. What is read says the filter again.

* **`Clause.IsClause`**, **`Clause.IsFilter`**: the texts that are a clause, and a filter;
* **`Clause.IsUnfinished`**: a filter with a separator after its last clause;
* **`Clause.scan_eq_ok_iff`**: a clause is read where one stands;
* **`Clause.parse_eq_ok_iff`**: which clauses are read of which texts;
* **`Clause.reads_filters_and_unfinished`**: the texts that are read, and what they are read as. -/

namespace CatalogSearch.Clause

/-! ## The texts -/

/-- **A text that is a clause**: a key without operators, an operator, and a value without quotes
between quotes. -/
inductive IsClause : List Char → Prop where
  | intro (key value : List Char) (op : Char) (hkey : '=' ∉ key ∧ '~' ∉ key)
      (hop : op = '=' ∨ op = '~') (hvalue : quote ∉ value) :
    IsClause (key ++ op :: quote :: (value ++ [quote]))

/-- **A text that is a filter**: clauses with a separator between neighbours. No clause at all makes
the empty filter. -/
def IsFilter (cs : List Char) : Prop :=
  ∃ texts, (∀ t ∈ texts, IsClause t) ∧ cs = Text.joinWith separator texts

/-- **A filter that goes on with nothing**: after its last clause stands a separator. -/
def IsUnfinished (cs : List Char) : Prop :=
  ∃ front, front ≠ [] ∧ IsFilter front ∧ cs = front ++ separator

/-! ## One clause -/

/-- A character is an operator if it is one of the two. -/
theorem isOperator_iff {ch : Char} : isOperator ch = true ↔ ch = '=' ∨ ch = '~' := by
  simp [isOperator]

/-- A key has no operators if it has neither of them. -/
theorem forall_isOperator_eq_false_iff {key : List Char} :
    (∀ ch ∈ key, isOperator ch = false) ↔ '=' ∉ key ∧ '~' ∉ key := by
  constructor
  · intro h
    constructor
    · intro hmem
      exact absurd (h '=' hmem) (by decide)
    · intro hmem
      exact absurd (h '~' hmem) (by decide)
  · rintro ⟨hequals, htilde⟩ ch hch
    have hne : ¬ isOperator ch = true := by
      rw [isOperator_iff]
      rintro (rfl | rfl)
      · exact hequals hch
      · exact htilde hch
    simpa using hne

/-- The clause of a key, an operator and a value. A choice has the values between the commas. -/
def ofParts (key value : List Char) (orGroup : Bool) : Clause where
  key := key
  orGroup := orGroup
  values := if orGroup then Text.splitOn (· == comma) value else [value]

/-- The clause of a key and a value says the value. -/
theorem joinWith_values_ofParts (key value : List Char) (orGroup : Bool) :
    Text.joinWith [comma] (ofParts key value orGroup).values = value := by
  cases orGroup with
  | true => exact Text.joinWith_splitOn comma value
  | false => rfl

/-- The clause of a key without operators and a value without quotes can be said. -/
theorem sayable_ofParts {key value : List Char} (orGroup : Bool)
    (hkey : ∀ ch ∈ key, isOperator ch = false) (hvalue : quote ∉ value) :
    (ofParts key value orGroup).Sayable := by
  have hvalues : ∀ v ∈ (ofParts key value orGroup).values, ∀ ch ∈ v, ch ∈ value := by
    intro v hv ch hch
    rw [← joinWith_values_ofParts key value orGroup]
    exact Text.mem_joinWith_of_mem hv hch
  refine
    { key_plain := hkey
      values_plain := fun v hv hmem => hvalue (hvalues v hv quote hmem)
      of_choice := ?_
      of_single := ?_ }
  · intro hgroup
    have hsplit : (ofParts key value orGroup).values = Text.splitOn (· == comma) value :=
      if_pos hgroup
    rw [hsplit]
    refine ⟨Text.splitOn_ne_nil _ value, fun v hv hmem => ?_⟩
    have hplain := Text.eq_false_of_mem_splitOn hv comma hmem
    simp at hplain
  · intro hgroup
    have hgroup' : orGroup = false := hgroup
    subst hgroup'
    exact ⟨value, rfl⟩

/-- The clause of a key, an operator and a value between quotes is that of its parts. -/
theorem text_ofParts {op : Char} (hop : isOperator op = true) (key value : List Char) :
    (ofParts key value (op == operator true)).text =
      key ++ op :: quote :: (value ++ [quote]) := by
  have hoperator : operator (op == operator true) = op := by
    rcases isOperator_iff.mp hop with rfl | rfl
    · rfl
    · rfl
  rw [text, joinWith_values_ofParts]
  simp [ofParts, hoperator]

/-- The clauses of texts are those that can be said. -/
theorem isClause_iff {t : List Char} : IsClause t ↔ ∃ c : Clause, c.Sayable ∧ t = c.text := by
  constructor
  · rintro ⟨key, value, op, hkey, hop, hvalue⟩
    have hsayable := sayable_ofParts (op == operator true)
      (forall_isOperator_eq_false_iff.mpr hkey) hvalue
    exact ⟨_, hsayable, (text_ofParts (isOperator_iff.mpr hop) key value).symm⟩
  · rintro ⟨c, hc, rfl⟩
    have hop : operator c.orGroup = '=' ∨ operator c.orGroup = '~' :=
      isOperator_iff.mp (isOperator_operator c.orGroup)
    have htext : c.text =
        c.key ++ operator c.orGroup :: quote :: (Text.joinWith [comma] c.values ++ [quote]) := by
      simp [text]
    rw [htext]
    exact .intro c.key _ _ (forall_isOperator_eq_false_iff.mp hc.key_plain) hop
      (quote_not_mem_joinWith hc.values_plain)

/-- **A clause is read where one stands**, and what follows it is left. -/
theorem scan_eq_ok_iff {cs rest : List Char} {c : Clause} :
    scan cs = .ok (c, rest) ↔ c.Sayable ∧ cs = c.text ++ rest := by
  constructor
  · intro h
    unfold scan at h
    split at h
    · cases h
    · next op body hbody =>
      obtain ⟨hop, hkey, hcs⟩ := Text.cut_of_dropWhile_eq_cons hbody
      split at h
      · cases h
      · next q rest' hrest =>
        obtain ⟨hq, hvalue, hcut⟩ := Text.cut_of_dropWhile_eq_cons hrest
        cases h
        have hop' : isOperator op = true := by simpa using hop
        have hq' : q = quote := by simpa using hq
        have hplain : quote ∉ body.takeWhile (· != quote) := fun hmem => by
          simpa using hvalue quote hmem
        constructor
        · exact sayable_ofParts _ (fun ch hch => by simpa using hkey ch hch) hplain
        · have htext := text_ofParts hop' (cs.takeWhile (!isOperator ·))
            (body.takeWhile (· != quote))
          rw [ofParts] at htext
          rw [htext, List.append_assoc, List.cons_append, List.cons_append, List.append_assoc,
            List.singleton_append]
          rw [hq'] at hcut
          rw [← hcut]
          exact hcs
    · cases h
  · rintro ⟨hc, rfl⟩
    exact scan_text_append hc rest

/-! ## Whole filters -/

/-- The filters are the texts of clauses that can be said. -/
theorem isFilter_iff {cs : List Char} :
    IsFilter cs ↔ ∃ clauses : List Clause, (∀ c ∈ clauses, c.Sayable) ∧ cs = render clauses := by
  constructor
  · rintro ⟨texts, htexts, rfl⟩
    have hall : ∃ clauses : List Clause, (∀ c ∈ clauses, c.Sayable) ∧ texts = clauses.map text := by
      induction texts with
      | nil => exact ⟨[], fun c hc => absurd hc List.not_mem_nil, rfl⟩
      | cons t texts ih =>
        obtain ⟨ht, hrest⟩ := List.forall_mem_cons.mp htexts
        obtain ⟨c, hc, rfl⟩ := isClause_iff.mp ht
        obtain ⟨clauses, hclauses, rfl⟩ := ih hrest
        exact ⟨c :: clauses, List.forall_mem_cons.mpr ⟨hc, hclauses⟩, rfl⟩
    obtain ⟨clauses, hclauses, rfl⟩ := hall
    exact ⟨clauses, hclauses, rfl⟩
  · rintro ⟨clauses, hclauses, rfl⟩
    refine ⟨clauses.map text, fun t ht => ?_, rfl⟩
    obtain ⟨c, hc, rfl⟩ := List.mem_map.mp ht
    exact isClause_iff.mpr ⟨c, hclauses c hc, rfl⟩

/-- A filter with clauses ends with a quote. -/
theorem getLast?_render {clauses : List Clause} (h : clauses ≠ []) :
    (render clauses).getLast? = some quote := by
  induction clauses with
  | nil => exact absurd rfl h
  | cons c clauses ih =>
    cases clauses with
    | nil =>
      rw [render_singleton, text]
      exact List.getLast?_concat
    | cons d clauses =>
      rw [render_cons_cons, List.getLast?_append, ih (List.cons_ne_nil d clauses)]
      rfl

/-- The filters that go on with nothing are the texts of some clauses and a separator. -/
theorem isUnfinished_iff {cs : List Char} :
    IsUnfinished cs ↔ ∃ clauses : List Clause,
      clauses ≠ [] ∧ (∀ c ∈ clauses, c.Sayable) ∧ cs = render clauses ++ separator := by
  constructor
  · rintro ⟨front, hne, hfront, rfl⟩
    obtain ⟨clauses, hsayable, rfl⟩ := isFilter_iff.mp hfront
    refine ⟨clauses, ?_, hsayable, rfl⟩
    rintro rfl
    exact hne render_nil
  · rintro ⟨clauses, hne, hsayable, rfl⟩
    refine ⟨render clauses, ?_, isFilter_iff.mpr ⟨clauses, hsayable, rfl⟩, rfl⟩
    intro hnil
    have hlast := getLast?_render hne
    rw [hnil] at hlast
    cases hlast

/-- A filter that goes on with nothing is no filter. -/
theorem not_isFilter_of_isUnfinished {cs : List Char} (h : IsUnfinished cs) : ¬ IsFilter cs := by
  obtain ⟨front, -, -, rfl⟩ := h
  intro hfilter
  obtain ⟨clauses, -, hcs⟩ := isFilter_iff.mp hfilter
  -- The one ends with a blank, the other with a quote.
  have hlast : (front ++ separator).getLast? = some ' ' := by
    rw [List.getLast?_append]
    rfl
  cases clauses with
  | nil => simp [separator] at hcs
  | cons c clauses =>
    rw [hcs, getLast?_render (List.cons_ne_nil c clauses)] at hlast
    exact absurd hlast (by decide)

/-! ## Reading -/

/-- A separator after the last clause of a filter is passed over. -/
theorem parse_render_separator {clauses : List Clause} (hne : clauses ≠ [])
    (h : ∀ c ∈ clauses, c.Sayable) : parse (render clauses ++ separator) = .ok clauses := by
  induction clauses with
  | nil => exact absurd rfl hne
  | cons c clauses ih =>
    obtain ⟨hc, hclauses⟩ := List.forall_mem_cons.mp h
    cases clauses with
    | nil =>
      have hscan : scan (c.text ++ separator) = .ok (c, separator ++ []) :=
        scan_text_append hc separator
      have hempty : parse [] = .ok [] := parse_render hclauses
      rw [render_singleton, parse_of_scan_separator hscan, hempty]
      rfl
    | cons d clauses =>
      have hscan := scan_text_append hc (separator ++ (render (d :: clauses) ++ separator))
      rw [render_cons_cons, List.append_assoc, List.append_assoc, parse_of_scan_separator hscan,
        ih (List.cons_ne_nil d clauses) hclauses]
      rfl

/-- **Which clauses are read of which texts**: clauses that can be said, of their filter, or of it
and one more separator. -/
theorem parse_eq_ok_iff {cs : List Char} {clauses : List Clause} :
    parse cs = .ok clauses ↔
      (∀ c ∈ clauses, c.Sayable) ∧
        (cs = render clauses ∨ clauses ≠ [] ∧ cs = render clauses ++ separator) := by
  constructor
  · intro h
    fun_induction parse cs generalizing clauses with
    | case1 cs hempty =>
      cases h
      exact ⟨fun c hc => absurd hc List.not_mem_nil, Or.inl (List.isEmpty_iff.mp hempty)⟩
    | case2 cs hempty fault hscan => cases h
    | case3 cs hempty c hscan =>
      cases h
      obtain ⟨hc, hcs⟩ := scan_eq_ok_iff.mp hscan
      rw [List.append_nil] at hcs
      exact ⟨List.forall_mem_singleton.mpr hc, Or.inl hcs⟩
    | case4 cs hempty c rest hne hscan hnone => cases h
    | case5 cs hempty c rest hne hscan next hnext ih =>
      obtain ⟨hc, hcs⟩ := scan_eq_ok_iff.mp hscan
      obtain ⟨ds, hds, rfl⟩ := map_eq_ok_iff.mp h
      obtain ⟨hsayable, htext⟩ := ih hds
      rw [Text.stripPrefix?_eq_some_iff] at hnext
      rw [hnext] at hcs
      refine ⟨List.forall_mem_cons.mpr ⟨hc, hsayable⟩, ?_⟩
      -- After the last clause nothing follows the separator.
      cases ds with
      | nil =>
        rcases htext with rfl | ⟨hnil, -⟩
        · rw [render_nil, List.append_nil] at hcs
          exact Or.inr ⟨List.cons_ne_nil c [], hcs⟩
        · exact absurd rfl hnil
      | cons d ds =>
        rw [render_cons_cons]
        rcases htext with rfl | ⟨-, rfl⟩
        · exact Or.inl (by rw [hcs, List.append_assoc])
        · exact Or.inr ⟨List.cons_ne_nil c _, by rw [hcs]; simp⟩
  · rintro ⟨hsayable, rfl | ⟨hne, rfl⟩⟩
    · exact parse_render hsayable
    · exact parse_render_separator hne hsayable

/-- **All filters are read, and filters that go on with nothing**, and no other text. A filter is
what the clauses read of it say; one that goes on with nothing is that and a separator. -/
theorem reads_filters_and_unfinished (cs : List Char) :
    ((∃ clauses, parse cs = .ok clauses) ↔ IsFilter cs ∨ IsUnfinished cs) ∧
      ∀ clauses, parse cs = .ok clauses →
        (IsFilter cs → render clauses = cs) ∧
          (IsUnfinished cs → clauses ≠ [] ∧ render clauses ++ separator = cs) := by
  constructor
  · rw [isFilter_iff, isUnfinished_iff]
    constructor
    · rintro ⟨clauses, h⟩
      obtain ⟨hsayable, hcs | ⟨hne, hcs⟩⟩ := parse_eq_ok_iff.mp h
      · exact Or.inl ⟨clauses, hsayable, hcs⟩
      · exact Or.inr ⟨clauses, hne, hsayable, hcs⟩
    · rintro (⟨clauses, hsayable, hcs⟩ | ⟨clauses, hne, hsayable, hcs⟩)
      · exact ⟨clauses, parse_eq_ok_iff.mpr ⟨hsayable, Or.inl hcs⟩⟩
      · exact ⟨clauses, parse_eq_ok_iff.mpr ⟨hsayable, Or.inr ⟨hne, hcs⟩⟩⟩
  · intro clauses h
    obtain ⟨hsayable, hcs | ⟨hne, hcs⟩⟩ := parse_eq_ok_iff.mp h
    · have hfilter : IsFilter cs := isFilter_iff.mpr ⟨clauses, hsayable, hcs⟩
      exact ⟨fun _ => hcs.symm, fun hopen => absurd hfilter (not_isFilter_of_isUnfinished hopen)⟩
    · have hopen : IsUnfinished cs := isUnfinished_iff.mpr ⟨clauses, hne, hsayable, hcs⟩
      exact ⟨fun hfilter => absurd hfilter (not_isFilter_of_isUnfinished hopen),
        fun _ => ⟨hne, hcs.symm⟩⟩

/-- **A text that is no filter is read**, and its clauses do not say it again. -/
theorem reads_unfinished_filter :
    ¬ IsFilter "a='1' AND ".toList ∧
      ∃ clauses, parse "a='1' AND ".toList = .ok clauses ∧
        render clauses ≠ "a='1' AND ".toList := by
  have hread : parse "a='1' AND ".toList = .ok [⟨['a'], false, [['1']]⟩] := by decide +kernel
  have hrender : render [⟨['a'], false, [['1']]⟩] = "a='1'".toList := by decide
  refine ⟨fun hfilter => ?_, _, hread, by rw [hrender]; decide⟩
  obtain ⟨clauses, hsayable, hcs⟩ := isFilter_iff.mp hfilter
  rw [hcs, parse_render hsayable] at hread
  obtain rfl := Except.ok.inj hread
  rw [hrender] at hcs
  exact absurd hcs (by decide)

end CatalogSearch.Clause
