import CatalogSearch.Proofs.Url.Steps
import CatalogSearch.Url.Read

/-! # Plain paths

A plain path has steps of letters, digits, `-` and `_`. Behind a slash they are segments, each the
way it is written. Behind anything else the first of them is the rest of a step that another text
has begun, and what comes of it is never that text's path with the plain segments behind it.

* **`UrlPath.IsPlainPath`**: plain paths, with or without a slash in front;
* **`UrlPath.steps_joinWith`**: their steps are their segments;
* **`UrlPath.bare_resolve_append_ne`**: what comes of a plain path without a slash before it;
* **`UrlPath.walked_append_ne`**: what comes of blanks at the end of a text. -/

namespace CatalogSearch.UrlPath

variable {seg text more path : List Char} {segs : List (List Char)} {c : Char}

/-! ## Plain segments -/

/-- A character of plain segments: a letter, a digit, `-` or `_`. -/
def isPlainChar (c : Char) : Bool := c.isAlphanum || c == '-' || c == '_'

/-- **A plain segment.** -/
structure IsPlain (seg : List Char) : Prop where
  ne_nil : seg ≠ []
  chars : ∀ c ∈ seg, isPlainChar c = true

/-- **A plain path**: plain segments with single slashes between them, with or without a slash in
front. -/
structure IsPlainPath (path : List Char) (segs : List (List Char)) : Prop where
  ne_nil : segs ≠ []
  plain : ∀ seg ∈ segs, IsPlain seg
  text : path = Text.joinWith ['/'] segs ∨ path = '/' :: Text.joinWith ['/'] segs

/-- What is so of all plain characters of ASCII is so of all plain characters, as there are no
others. -/
theorem of_isPlainChar {p : Char → Bool}
    (hall : ∀ n < 0x80, isPlainChar (Char.ofNat n) = true → p (Char.ofNat n) = true)
    (h : isPlainChar c = true) : p c = true := by
  have hreserved : Text.isUnreserved c = true := by
    rw [isPlainChar, Bool.or_eq_true, Bool.or_eq_true] at h
    simp only [Text.isUnreserved, Bool.or_eq_true]
    exact Or.inl (h.imp_left Or.inl)
  have hc := hall c.toNat (by have := (Text.toNat_of_isUnreserved hreserved).2; omega)
  rw [Char.ofNat_toNat] at hc
  exact hc h

/-- Plain characters count wherever they stand. -/
theorem isPadding_of_isPlainChar (h : isPlainChar c = true) : Url.isPadding c = false :=
  (Bool.not_eq_true' _).mp (of_isPlainChar (p := fun c => !Url.isPadding c) (by decide) h)

/-- Plain characters are no slashes. -/
theorem isSlash_of_isPlainChar (h : isPlainChar c = true) : SchemeKind.server.isSlash c = false :=
  (Bool.not_eq_true' _).mp
    (of_isPlainChar (p := fun c => !SchemeKind.server.isSlash c) (by decide) h)

/-- Blanks and controls are no slashes. -/
theorem isSlash_of_isPadding (h : Url.isPadding c = true) :
    SchemeKind.server.isSlash c = false := by
  rw [← Bool.not_eq_true]
  intro hslash
  simp only [SchemeKind.isSlash, Bool.or_eq_true, Bool.and_eq_true, beq_iff_eq] at hslash
  rcases hslash with rfl | ⟨-, rfl⟩ <;> cases h

/-- A plain segment is written as it is. -/
theorem IsPlain.percentEncode_eq_self (h : IsPlain seg) :
    Text.percentEncode keepsInPath seg = seg :=
  Text.percentEncode_of_forall fun c hc => of_isPlainChar (by decide) (h.chars c hc)

/-- A plain segment has no slash. -/
theorem IsPlain.isSlash (h : IsPlain seg) : ∀ c ∈ seg, SchemeKind.server.isSlash c = false :=
  fun c hc => isSlash_of_isPlainChar (h.chars c hc)

/-- A text that is none of some names. -/
theorem any_toList_eq_false {names : List String} (h : ∀ s ∈ names, s.toList ≠ seg) :
    (names.any fun s => s.toList == seg) = false := by
  simpa [List.any_eq_false] using h

/-- A plain segment is none of some names that are not plain. -/
theorem IsPlain.toList_ne (h : IsPlain seg) {names : List String}
    (hnames : ∀ s ∈ names, s.toList.all isPlainChar = false) :
    ∀ s ∈ names, s.toList ≠ seg := by
  rintro s hs rfl
  cases (hnames s hs).symm.trans (List.all_eq_true.mpr h.chars)

/-- A plain segment has a name of its own. -/
theorem IsPlain.isNamed (h : IsPlain seg) : IsNamed seg :=
  ⟨any_toList_eq_false (h.toList_ne (by decide)), any_toList_eq_false (h.toList_ne (by decide))⟩

/-- **The steps of a plain path are its segments.** -/
theorem steps_joinWith (hne : segs ≠ []) (h : ∀ seg ∈ segs, IsPlain seg) :
    steps (Text.joinWith ['/'] segs) = segs := by
  have hslash : SchemeKind.server.isSlash '/' = true := rfl
  rw [steps, Text.splitOn_joinWith hslash hne fun seg hseg => (h seg hseg).isSlash,
    List.map_congr_left fun seg hseg => (h seg hseg).percentEncode_eq_self, List.map_id']

/-- What is so of plain characters and of slashes is so of a plain path. -/
theorem of_mem_joinWith {p : Char → Prop} (hplain : ∀ c, isPlainChar c = true → p c)
    (hslash : p '/') (h : ∀ seg ∈ segs, IsPlain seg) (hc : c ∈ Text.joinWith ['/'] segs) : p c := by
  induction segs with
  | nil => exact absurd hc List.not_mem_nil
  | cons seg segs ih =>
    obtain ⟨hseg, hsegs⟩ := List.forall_mem_cons.mp h
    cases segs with
    | nil => exact hplain c (hseg.chars c hc)
    | cons next segs =>
      rw [Text.joinWith_cons_cons, List.append_assoc] at hc
      rcases List.mem_append.mp hc with hc | hc
      · exact hplain c (hseg.chars c hc)
      · rcases List.mem_cons.mp hc with rfl | hc
        · exact hslash
        · exact ih hsegs hc

/-- All of a plain path counts. -/
theorem isPadding_of_mem_joinWith (h : ∀ seg ∈ segs, IsPlain seg)
    (hc : c ∈ Text.joinWith ['/'] segs) : Url.isPadding c = false :=
  of_mem_joinWith (p := fun c => Url.isPadding c = false) (fun _ => isPadding_of_isPlainChar)
    rfl h hc

/-- A plain path starts with a plain character, if no slash is in front. -/
theorem exists_joinWith_eq_cons (hne : segs ≠ []) (h : ∀ seg ∈ segs, IsPlain seg) :
    ∃ c rest, Text.joinWith ['/'] segs = c :: rest ∧ isPlainChar c = true := by
  cases segs with
  | nil => exact absurd rfl hne
  | cons seg segs =>
    have hseg := h seg List.mem_cons_self
    cases seg with
    | nil => exact absurd rfl hseg.ne_nil
    | cons c seg =>
      have hc := hseg.chars c List.mem_cons_self
      cases segs with
      | nil => exact ⟨c, seg, rfl, hc⟩
      | cons next segs => exact ⟨c, _, rfl, hc⟩

/-- Plain segments behind others are bare. -/
theorem bare_append_of_isPlain (hne : segs ≠ []) (h : ∀ seg ∈ segs, IsPlain seg)
    (all : List (List Char)) : bare (all ++ segs) = all ++ segs := by
  rw [← List.dropLast_append_getLast hne, ← List.append_assoc]
  exact bare_concat (h _ (List.getLast_mem hne)).ne_nil _

/-! ## Steps that go on -/

/-- What is written of two texts is written of them one after the other. -/
theorem percentEncode_append (text more : List Char) :
    Text.percentEncode keepsInPath (text ++ more) =
      Text.percentEncode keepsInPath text ++ Text.percentEncode keepsInPath more :=
  List.flatMap_append

/-- Only of an empty text nothing is written. -/
theorem percentEncode_ne_nil (h : text ≠ []) : Text.percentEncode keepsInPath text ≠ [] := by
  cases text with
  | nil => exact absurd rfl h
  | cons c text =>
    rw [Text.percentEncode_cons, Text.percentChar]
    by_cases hc : keepsInPath c = true
    · rw [if_pos hc]
      exact List.cons_ne_nil c _
    · rw [if_neg hc]
      cases hbytes : String.utf8EncodeChar c with
      | nil => exact absurd hbytes String.utf8EncodeChar_ne_nil
      | cons b bytes => exact List.cons_ne_nil '%' _

/-- A text has no slash, or a last one. -/
theorem exists_last_slash (text : List Char) :
    (∀ c ∈ text, SchemeKind.server.isSlash c = false) ∨
      ∃ front slash begun, text = front ++ slash :: begun ∧ SchemeKind.server.isSlash slash = true ∧
        ∀ c ∈ begun, SchemeKind.server.isSlash c = false := by
  induction text with
  | nil => exact Or.inl fun c hc => absurd hc List.not_mem_nil
  | cons c text ih =>
    rcases ih with hnone | ⟨front, slash, begun, rfl, hslash, hbegun⟩
    · cases hc : SchemeKind.server.isSlash c with
      | true => exact Or.inr ⟨[], c, text, rfl, hc, hnone⟩
      | false => exact Or.inl (List.forall_mem_cons.mpr ⟨hc, hnone⟩)
    · exact Or.inr ⟨c :: front, slash, begun, rfl, hslash, hbegun⟩

/-- A text without a slash is one step. -/
theorem steps_eq_singleton (h : ∀ c ∈ text, SchemeKind.server.isSlash c = false) :
    steps text = [Text.percentEncode keepsInPath text] := by
  rw [steps, Text.splitOn_eq_singleton h]
  rfl

/-- **A step is begun at the end of a text**, and what follows without a slash goes on with it. -/
theorem exists_steps_append (text : List Char) :
    ∃ front begun, (begun = [] → ∀ c, text.getLast? = some c → SchemeKind.server.isSlash c = true) ∧
      ∀ more, (∀ c ∈ more, SchemeKind.server.isSlash c = false) →
        steps (text ++ more) = front ++ [Text.percentEncode keepsInPath (begun ++ more)] := by
  rcases exists_last_slash text with hnone | ⟨front, slash, begun, rfl, hslash, hbegun⟩
  · refine ⟨[], text, ?_, fun more hmore => ?_⟩
    · rintro rfl c ⟨⟩
    · exact steps_eq_singleton (List.forall_mem_append.mpr ⟨hnone, hmore⟩)
  · refine ⟨steps front, begun, ?_, fun more hmore => ?_⟩
    · rintro rfl c hc
      rw [List.getLast?_concat] at hc
      rwa [← Option.some.inj hc]
    · rw [List.append_assoc, List.cons_append, steps_append_slash hslash,
        steps_eq_singleton (List.forall_mem_append.mpr ⟨hbegun, hmore⟩)]

/-- A step up. -/
theorem addSegment_of_isDoubleDot (h : isDoubleDot seg = true) (all : List (List Char)) :
    addSegment .server false all seg = stepUp all := by
  simp [addSegment, h]

/-- What becomes of the segments with a step that is not the last: it goes up, or stays, or is a
segment. -/
theorem addSegment_false_cases (all : List (List Char)) (seg : List Char) :
    (isDoubleDot seg = true ∧ addSegment .server false all seg = stepUp all) ∨
      (isDoubleDot seg = false ∧ isDot seg = true ∧ addSegment .server false all seg = all) ∨
        IsNamed seg ∧ addSegment .server false all seg = all ++ [seg] := by
  by_cases hdots : isDoubleDot seg = true
  · exact Or.inl ⟨hdots, addSegment_of_isDoubleDot hdots all⟩
  · have hdots' : isDoubleDot seg = false := by simpa using hdots
    by_cases hdot : isDot seg = true
    · exact Or.inr (Or.inl ⟨hdots', hdot, by simp [addSegment, hdots', hdot]⟩)
    · have hnamed : IsNamed seg := ⟨by simpa using hdot, hdots'⟩
      exact Or.inr (Or.inr ⟨hnamed, addSegment_of_isNamed hnamed false all⟩)

/-- Going up leaves the first segments. -/
theorem stepUp_isPrefix (all : List (List Char)) : stepUp all <+: all := by
  unfold stepUp
  split
  · exact List.prefix_refl all
  · exact List.dropLast_prefix all

/-- A step that goes up is no start of one that stays. -/
theorem isDot_append (h : isDoubleDot seg = true) (more : List Char) :
    isDot (seg ++ more) = false := by
  have hpre : ∀ up ∈ ["..", "%2e%2e", "%2e%2E", "%2E%2e", "%2E%2E", "%2e.", "%2E.", ".%2e",
      ".%2E"], ∀ stay ∈ [".", "%2e", "%2E"], ¬ up.toList <+: stay.toList := by
    decide
  obtain ⟨up, hup, hseg⟩ := List.any_eq_true.mp h
  rw [← Bool.not_eq_true]
  intro hdot
  obtain ⟨stay, hstay, hmore⟩ := List.any_eq_true.mp hdot
  refine hpre up hup stay hstay ?_
  rw [beq_iff_eq.mp hseg, beq_iff_eq.mp hmore]
  exact List.prefix_append seg more

/-! ## What comes of unfinished steps -/

/-- Whether a step is the last one makes no difference to the bare segments. -/
theorem bare_addSegments_cons (hsegs : ∀ seg ∈ segs, IsPlain seg) (all : List (List Char))
    (seg : List Char) :
    bare (addSegments .server all (seg :: segs)) =
      bare (addSegment .server false all seg ++ segs) := by
  cases segs with
  | nil =>
    rw [addSegments, List.append_nil]
    rcases addSegment_true_eq all seg with h | h
    · rw [h]
    · rw [h, bare_concat_nil]
  | cons next segs =>
    rw [addSegments, addSegments_of_isNamed _ fun seg hseg => (hsegs seg hseg).isNamed]

/-- **A plain segment that goes on with a step** does not follow the segments that the step leads to
by itself. -/
theorem bare_addSegments_ne {begun more first : List Char} (hgoes : begun ++ more ≠ [])
    (hfirst : first ≠ []) (hsegs : ∀ seg ∈ segs, IsPlain seg) (all : List (List Char)) :
    bare (addSegments .server all ((begun ++ more ++ first) :: segs)) ≠
      bare (addSegment .server false all begun) ++ first :: segs := by
  intro h
  rw [bare_addSegments_cons hsegs] at h
  have hpre : bare (addSegment .server false all begun) ++ [first] <+:
      addSegment .server false all (begun ++ more ++ first) := by
    cases segs with
    | nil =>
      rw [List.append_nil] at h
      rw [← h]
      exact bare_isPrefix _
    | cons next segs =>
      rw [bare_append_of_isPlain (List.cons_ne_nil next segs) hsegs,
        List.append_cons (bare _) first (next :: segs)] at h
      exact ⟨[], (List.append_nil _).trans (List.append_cancel_right h).symm⟩
  have hnone : ∀ {step : List (List Char)}, bare step ++ [first] <+: step → False :=
    fun hstep => hfirst (eq_nil_of_isPrefix hstep)
  -- What is begun leads to no segments that a plain one is the next of, but where it goes up.
  have hinside : isDoubleDot begun = true ∨
      ¬ bare (addSegment .server false all begun) ++ [first] <+: all := by
    rcases addSegment_false_cases all begun with ⟨hdots, -⟩ | ⟨-, -, hstep⟩ | ⟨-, hstep⟩
    · exact Or.inl hdots
    · rw [hstep]
      exact Or.inr hnone
    · rw [hstep]
      refine Or.inr fun hall => ?_
      by_cases hbegun : begun = []
      · rw [hbegun, bare_concat_nil] at hall
        exact hnone hall
      · rw [bare_concat hbegun] at hall
        have hlength := hall.length_le
        simp only [List.length_append, List.length_singleton] at hlength
        omega
  rcases addSegment_false_cases all (begun ++ more ++ first) with
    ⟨-, hstep⟩ | ⟨-, hdot, hstep⟩ | ⟨-, hstep⟩
  · rw [hstep] at hpre
    rcases hinside with hdots | hinside
    · rw [addSegment_of_isDoubleDot hdots] at hpre
      exact hnone hpre
    · exact hinside (hpre.trans (stepUp_isPrefix all))
  · rw [hstep] at hpre
    rcases hinside with hdots | hinside
    · rw [List.append_assoc, isDot_append hdots] at hdot
      cases hdot
    · exact hinside hpre
  · -- A step with a name of its own is the next segment, and that is the plain one.
    have hne : begun ++ more ++ first ≠ [] := List.append_ne_nil_of_right_ne_nil _ hfirst
    have hlast : bare (all ++ [begun ++ more ++ first] ++ segs) =
        all ++ (begun ++ more ++ first) :: segs := by
      cases segs with
      | nil => rw [List.append_nil, bare_concat hne]
      | cons next segs =>
        rw [bare_append_of_isPlain (List.cons_ne_nil next segs) hsegs, ← List.append_cons]
    rw [hstep, hlast] at h
    have hcons := (List.append_inj' h rfl).2
    have hsame : begun ++ more ++ first = [] ++ first := (List.cons.inj hcons).1
    exact hgoes (List.append_cancel_right hsame)

/-- **What goes on with a step and has a name of its own** is another segment than the step leads
to. -/
theorem addSegment_append_ne_bare {begun more : List Char} (hnamed : IsNamed (begun ++ more))
    (hmore : more ≠ []) (all : List (List Char)) :
    addSegment .server false all (begun ++ more) ≠ bare (addSegment .server false all begun) := by
  intro h
  rw [addSegment_of_isNamed hnamed] at h
  have hpre : all ++ [begun ++ more] <+: addSegment .server false all begun := by
    rw [h]
    exact bare_isPrefix _
  have hlength := hpre.length_le
  rcases addSegment_false_cases all begun with ⟨-, hstep⟩ | ⟨-, -, hstep⟩ | ⟨-, hstep⟩
  · rw [hstep] at hlength
    have hup := (stepUp_isPrefix all).length_le
    simp only [List.length_append, List.length_singleton] at hlength
    omega
  · rw [hstep] at hlength
    simp only [List.length_append, List.length_singleton] at hlength
    omega
  · rw [hstep] at hpre
    have hsame := hpre.eq_of_length (by simp)
    have hlast := (List.append_inj' hsame rfl).2
    exact hmore (by simpa using hlast)

/-- A step that ends in a blank or a control has a name of its own. -/
theorem isNamed_append_padding (begun : List Char) (hmore : more ≠ [])
    (hpadding : ∀ c ∈ more, Url.isPadding c = true) :
    IsNamed (begun ++ Text.percentEncode keepsInPath more) := by
  obtain ⟨front, c, rfl⟩ := (List.eq_nil_or_concat' more).resolve_left hmore
  have hc : c.toNat < 0x21 :=
    Nat.lt_succ_of_le (of_decide_eq_true (hpadding c List.mem_concat_self))
  have hsuffix : Text.percentChar keepsInPath c <:+
      begun ++ Text.percentEncode keepsInPath (front ++ [c]) := by
    rw [percentEncode_append, Text.percentEncode_cons, Text.percentEncode_nil, List.append_nil,
      ← List.append_assoc]
    exact List.suffix_append _ _
  have hother : ∀ {names : List String}, (∀ n < 0x21, ∀ s ∈ names,
      ¬ Text.percentChar keepsInPath (Char.ofNat n) <:+ s.toList) →
        ∀ s ∈ names, s.toList ≠ begun ++ Text.percentEncode keepsInPath (front ++ [c]) := by
    intro names hnames s hs heq
    refine hnames c.toNat hc s hs ?_
    rwa [Char.ofNat_toNat, heq]
  exact ⟨any_toList_eq_false (hother (by decide +kernel)),
    any_toList_eq_false (hother (by decide +kernel))⟩

/-! ## Texts that go on -/

variable {slash : Char}

/-- A text leads where the step leads that it has begun. -/
theorem walked_cons {front : List (List Char)} {begun : List Char}
    (hsteps : ∀ more, (∀ c ∈ more, SchemeKind.server.isSlash c = false) →
      steps (text ++ more) = front ++ [Text.percentEncode keepsInPath (begun ++ more)]) :
    walked (slash :: text) =
      addSegment .server false (walk [] front) (Text.percentEncode keepsInPath begun) := by
  have htext := hsteps [] fun c hc => absurd hc List.not_mem_nil
  rw [List.append_nil, List.append_nil] at htext
  rw [walked, htext, walk_concat]

/-- The step that a text begins goes on with what follows. -/
theorem steps_append_joinWith {front : List (List Char)} {begun first : List Char}
    (hsteps : ∀ more, (∀ c ∈ more, SchemeKind.server.isSlash c = false) →
      steps (text ++ more) = front ++ [Text.percentEncode keepsInPath (begun ++ more)])
    (hmore : ∀ c ∈ more, SchemeKind.server.isSlash c = false) (hfirst : IsPlain first)
    (hsegs : ∀ seg ∈ segs, IsPlain seg) :
    steps (text ++ more ++ Text.joinWith ['/'] (first :: segs)) =
      front ++ (Text.percentEncode keepsInPath begun ++ Text.percentEncode keepsInPath more ++
        first) :: segs := by
  have hbegun : steps (text ++ (more ++ first)) = front ++
      [Text.percentEncode keepsInPath begun ++ Text.percentEncode keepsInPath more ++ first] := by
    rw [hsteps _ (List.forall_mem_append.mpr ⟨hmore, hfirst.isSlash⟩), percentEncode_append,
      percentEncode_append, hfirst.percentEncode_eq_self, List.append_assoc]
  cases segs with
  | nil => rw [Text.joinWith_singleton, List.append_assoc, hbegun]
  | cons next segs =>
    have htext : text ++ more ++ Text.joinWith ['/'] (first :: next :: segs) =
        text ++ (more ++ first) ++ '/' :: Text.joinWith ['/'] (next :: segs) := by
      simp only [Text.joinWith_cons_cons, List.append_assoc, List.singleton_append]
    rw [htext, steps_append_slash rfl, hbegun, steps_joinWith (List.cons_ne_nil next segs) hsegs,
      ← List.append_cons]

/-- **A plain path without a slash before it** does not follow the segments of a text. -/
theorem bare_resolve_append_ne (hslash : SchemeKind.server.isSlash slash = true)
    (hmore : ∀ c ∈ more, SchemeKind.server.isSlash c = false)
    (hlast : ∀ c, (slash :: text ++ more).getLast? = some c → SchemeKind.server.isSlash c = false)
    (hne : segs ≠ []) (hsegs : ∀ seg ∈ segs, IsPlain seg) :
    bare (resolve .server (slash :: text ++ more ++ Text.joinWith ['/'] segs)) ≠
      bare (walked (slash :: text)) ++ segs := by
  obtain ⟨front, begun, hbegun, hsteps⟩ := exists_steps_append text
  cases segs with
  | nil => exact absurd rfl hne
  | cons first segs =>
    obtain ⟨hfirst, hsegs⟩ := List.forall_mem_cons.mp hsegs
    have hgoes :
        Text.percentEncode keepsInPath begun ++ Text.percentEncode keepsInPath more ≠ [] := by
      rw [← percentEncode_append]
      refine percentEncode_ne_nil fun hnil => ?_
      obtain ⟨rfl, rfl⟩ := List.append_eq_nil_iff.mp hnil
      -- Otherwise the text would end in a slash.
      rw [List.append_nil] at hlast
      cases htext : text.getLast? with
      | none =>
        rw [List.getLast?_eq_none_iff.mp htext] at hlast
        cases hslash.symm.trans (hlast slash rfl)
      | some c =>
        have hc := hlast c (by rw [List.getLast?_cons, htext]; rfl)
        cases (hbegun rfl c htext).symm.trans hc
    rw [List.cons_append, List.cons_append, resolve_cons hslash,
      steps_append_joinWith hsteps hmore hfirst hsegs, addSegments_append_cons,
      walked_cons hsteps]
    exact bare_addSegments_ne hgoes hfirst.ne_nil hsegs _

/-- **Blanks and controls at the end of a text** do not come to its segments. -/
theorem walked_append_ne (hmore : more ≠ []) (hpadding : ∀ c ∈ more, Url.isPadding c = true) :
    walked (slash :: text ++ more) ≠ bare (walked (slash :: text)) := by
  obtain ⟨front, begun, -, hsteps⟩ := exists_steps_append text
  have hslash : ∀ c ∈ more, SchemeKind.server.isSlash c = false :=
    fun c hc => isSlash_of_isPadding (hpadding c hc)
  have hmore' : Text.percentEncode keepsInPath more ≠ [] := percentEncode_ne_nil hmore
  rw [List.cons_append, walked, hsteps more hslash, walk_concat, percentEncode_append,
    walked_cons hsteps]
  exact addSegment_append_ne_bare (isNamed_append_padding _ hmore hpadding) hmore' _

end CatalogSearch.UrlPath
