import CatalogSearch.Proofs.Attempt
import CatalogSearch.Proofs.Text.Percent
import CatalogSearch.Url.Read
import Mathlib.Data.List.TakeWhile

/-! # Segments that spell a text

A text that is added to a path as a segment is read off it again if it neither means a step of its
own nor has characters that URLs drop. Those texts are told here from all others, exactly.

* **`UrlPath.written`**: a text as it is written in a segment;
* **`UrlPath.stem`**: the segments of a path before one that is added;
* **`UrlPath.Tells`**: texts that can be told from their segment;
* **`UrlPath.push?_of_tells`**: their segment follows the others;
* **`UrlPath.tells_of_push?`**: there are no other texts of which this can be said;
* **`Url.settle_of_read`**: the segments of a URL that is read are settled. -/

namespace CatalogSearch

namespace UrlPath

variable {kind : SchemeKind} {all : List (List Char)} {cs seg : List Char}

/-- A segment has no percent sign of its own. -/
theorem keepsInSegment_percent (kind : SchemeKind) : keepsInSegment kind '%' = false := by
  cases kind <;> decide

/-- **A text as it is written in a segment.** -/
def written (kind : SchemeKind) (cs : List Char) : List Char :=
  Text.percentEncode (keepsInSegment kind) cs

/-- A segment spells the text that is written in it, and no other. -/
theorem percentDecode_written_iff {ds : List Char} :
    Text.percentDecode (written kind cs) = .ok ds ↔ cs = ds := by
  rw [written, Text.percentDecode_percentEncode (keepsInSegment_percent kind), Except.ok.injEq]

/-- Only a dot is written as one. -/
theorem eq_of_isDot_written (hdot : isDot (written kind cs) = true) : cs = ['.'] := by
  have hspelled : ∀ s ∈ [".", "%2e", "%2E"], Text.percentDecode s.toList = .ok ['.'] := by
    decide +kernel
  obtain ⟨s, hs, hseg⟩ := List.any_eq_true.mp hdot
  have hdecode : Text.percentDecode (written kind cs) = .ok ['.'] := by
    rw [← beq_iff_eq.mp hseg, hspelled s hs]
  exact percentDecode_written_iff.mp hdecode

/-- Only two dots are written as two dots. -/
theorem eq_of_isDoubleDot_written (hdot : isDoubleDot (written kind cs) = true) :
    cs = ['.', '.'] := by
  have hspelled : ∀ s ∈ ["..", "%2e%2e", "%2e%2E", "%2E%2e", "%2E%2E", "%2e.", "%2E.", ".%2e",
      ".%2E"], Text.percentDecode s.toList = .ok ['.', '.'] := by
    decide +kernel
  obtain ⟨s, hs, hseg⟩ := List.any_eq_true.mp hdot
  have hdecode : Text.percentDecode (written kind cs) = .ok ['.', '.'] := by
    rw [← beq_iff_eq.mp hseg, hspelled s hs]
  exact percentDecode_written_iff.mp hdecode

/-- The name of a drive: a letter and a mark. -/
theorem exists_of_isDrive (h : isDrive cs = true) :
    ∃ c d, cs = [c, d] ∧ c.isAlpha = true ∧ (d = ':' ∨ d = '|') := by
  match cs, h with
  | [c, d], h =>
    rw [isDrive, Bool.and_eq_true, Bool.or_eq_true, beq_iff_eq, beq_iff_eq] at h
    exact ⟨c, d, rfl, h⟩

/-- A segment that names a drive is the text that it spells. -/
theorem percentDecode_of_isDrive (h : isDrive cs = true) : Text.percentDecode cs = .ok cs := by
  obtain ⟨c, d, rfl, hc, hd⟩ := exists_of_isDrive h
  refine Text.percentDecode_of_forall_ne fun x hx => ?_
  rw [List.mem_cons, List.mem_singleton] at hx
  rcases hx with rfl | rfl
  · rintro rfl
    cases hc
  · rcases hd with rfl | rfl <;> decide

/-! ## Settled segments -/

/-- A single segment is settled. -/
theorem settle_singleton (kind : SchemeKind) (cs : List Char) : settle kind [cs] = [cs] := by
  rw [settle, dropEmptyFirst]
  cases cs <;> simp

/-- What is left without empty segments at the start does not start with one. -/
theorem isEmpty_of_dropWhile_eq_cons {first : List Char} {rest : List (List Char)}
    (h : all.dropWhile (·.isEmpty) = first :: rest) : first.isEmpty = false := by
  simpa [h] using List.head_dropWhile_not (·.isEmpty) (l := all) (by simp [h])

/-- Segments that do not start with an empty one are those of a file. -/
theorem settle_cons (kind : SchemeKind) {first : List Char} (h : first.isEmpty = false)
    (rest : List (List Char)) : settle kind (first :: rest) = first :: rest := by
  rw [settle, dropEmptyFirst, List.dropWhile_cons_of_neg (by simp [h])]
  exact ite_self _

/-- Segments are settled once. -/
theorem settle_settle (kind : SchemeKind) (all : List (List Char)) :
    settle kind (settle kind all) = settle kind all := by
  unfold settle
  split
  · unfold dropEmptyFirst
    cases hall : all.dropWhile (·.isEmpty) with
    | nil => rfl
    | cons first rest => simp [isEmpty_of_dropWhile_eq_cons hall]
  · rfl

/-- The segments of a file start with an empty one only if they are no others. -/
theorem isEmpty_of_settle_eq_self {first : List Char} {rest : List (List Char)}
    (hsettled : settle .file (first :: rest) = first :: rest) (hne : first :: rest ≠ [[]]) :
    first.isEmpty = false := by
  by_contra hfirst
  have hfirst' : first.isEmpty = true := by simpa using hfirst
  rw [settle, if_pos rfl, dropEmptyFirst, List.dropWhile_cons_of_pos hfirst'] at hsettled
  cases hrest : rest.dropWhile (·.isEmpty) with
  | nil =>
    rw [hrest] at hsettled
    exact hne hsettled.symm
  | cons second more =>
    rw [hrest] at hsettled
    obtain ⟨rfl, -⟩ := List.cons.inj hsettled
    exact hfirst (isEmpty_of_dropWhile_eq_cons hrest)

/-- The last segment stays where it is. -/
theorem getLast?_settle (h : all ≠ []) : (settle kind all).getLast? = all.getLast? := by
  unfold settle
  split
  · unfold dropEmptyFirst
    cases hall : all.dropWhile (·.isEmpty) with
    | nil =>
      have hempty : all.getLast h = [] := by
        simpa using List.dropWhile_eq_nil_iff.mp hall _ (List.getLast_mem h)
      rw [List.getLast?_eq_some_getLast h, hempty]
      rfl
    | cons first rest =>
      obtain ⟨front, hfront⟩ := List.dropWhile_suffix (l := all) (·.isEmpty)
      rw [hall] at hfront
      rw [← hfront, List.getLast?_append_cons]
  · rfl

/-- The last segment is settled where it is. -/
theorem getLast?_settle_concat (kind : SchemeKind) (front : List (List Char)) (seg : List Char) :
    (settle kind (front ++ [seg])).getLast? = some seg := by
  rw [getLast?_settle (List.append_ne_nil_of_right_ne_nil _ (List.cons_ne_nil _ _)),
    List.getLast?_concat]

/-! ## What is in front of an added segment -/

/-- **The segments of a path before one that is added**: all but an empty last one. -/
def stem (all : List (List Char)) : List (List Char) :=
  if all.getLast? = some [] then all.dropLast else all

/-- A segment goes behind the others, unless the path is but two slashes. -/
theorem front_eq_stem (h : all ≠ [[], []]) :
    (if dropEmptyLast all = [[]] then [] else dropEmptyLast all) = stem all := by
  by_cases hlast : all.getLast? = some []
  · have hall : all.dropLast ++ [[]] = all := List.dropLast_append_getLast? _ hlast
    rw [stem, if_pos hlast]
    by_cases hlength : 1 < all.length
    · have hdrop : dropEmptyLast all = all.dropLast := if_pos ⟨hlength, hlast⟩
      rw [hdrop]
      refine if_neg fun hone => h ?_
      rw [← hall, hone]
      rfl
    · have hdrop : dropEmptyLast all = all := if_neg fun h => hlength h.1
      have hnil : all.dropLast = [] := by
        rw [List.eq_nil_iff_length_eq_zero, List.length_dropLast]
        omega
      rw [hnil, List.nil_append] at hall
      rw [hdrop, if_pos hall.symm, hnil]
  · have hdrop : dropEmptyLast all = all := if_neg fun h => hlast h.2
    rw [stem, if_neg hlast, hdrop]
    refine if_neg ?_
    rintro rfl
    exact hlast rfl

/-- The segments in front of an added one are the first ones of the path. -/
theorem stem_prefix (all : List (List Char)) : stem all <+: all := by
  unfold stem
  split
  · exact List.dropLast_prefix all
  · exact List.prefix_refl all

/-- A segment stays behind the segments of a path. -/
theorem settle_stem_append (hsettled : settle kind all = all) (seg : List Char) :
    settle kind (stem all ++ [seg]) = stem all ++ [seg] := by
  by_cases hkind : kind = .file
  · subst hkind
    cases hstem : stem all with
    | nil => exact settle_singleton _ _
    | cons first rest =>
      obtain ⟨more, hmore⟩ := stem_prefix all
      rw [hstem, List.cons_append] at hmore
      have hsettled' : settle .file (first :: (rest ++ more)) = first :: (rest ++ more) := by
        rw [hmore, hsettled]
      refine settle_cons _ (isEmpty_of_settle_eq_self hsettled' ?_) _
      intro hone
      rw [← hmore, hone] at hstem
      cases hstem
  · exact if_neg hkind

/-! ## Texts that are told -/

/-- **A text that can be told from its segment** behind the segments of a path: it means no step of
its own and has no character that is dropped, the path is not but two slashes, one of which would be
lost, and the text is not written as another drive. -/
structure Tells (kind : SchemeKind) (all : List (List Char)) (cs : List Char) : Prop where
  adds : addsNothing cs = false
  keeps : ∀ c ∈ cs, isDropped c = false
  not_slashes : all ≠ [[], []]
  drive_of_stem : stem all = [] → firstSegment kind cs = cs

/-- A text without dropped characters is not changed by dropping them. -/
theorem filter_not_isDropped_eq_self_iff :
    cs.filter (!isDropped ·) = cs ↔ ∀ c ∈ cs, isDropped c = false := by
  simp only [List.filter_eq_self, Bool.not_eq_true']

instance (kind : SchemeKind) (all : List (List Char)) (cs : List Char) :
    Decidable (Tells kind all cs) :=
  -- A quantifier over characters is not left to the search for instances, which could take them
  -- all.
  decidable_of_iff
    (addsNothing cs = false ∧ cs.filter (!isDropped ·) = cs ∧ all ≠ [[], []] ∧
      (stem all = [] → firstSegment kind cs = cs))
    ⟨fun ⟨adds, keeps, not_slashes, drive⟩ =>
        ⟨adds, filter_not_isDropped_eq_self_iff.mp keeps, not_slashes, drive⟩,
      fun h => ⟨h.adds, filter_not_isDropped_eq_self_iff.mpr h.keeps, h.not_slashes,
        h.drive_of_stem⟩⟩

/-- A text that is no drive of its own is not written as one. -/
theorem firstSegment_written (h : firstSegment kind cs = cs) :
    firstSegment kind (written kind cs) = written kind cs := by
  by_cases hdrive : isDrive (written kind cs) = true
  · rw [← percentDecode_written_iff.mp (percentDecode_of_isDrive hdrive), h]
  · exact if_neg fun h => hdrive h.2

/-- **What adding a text does to a path**, unless it adds nothing. -/
theorem push?_of_adds (h : addsNothing cs = false) :
    push? kind cs (.segments all) =
      some (.segments (settle kind (addSegment kind true
        (if dropEmptyLast all = [[]] then [] else dropEmptyLast all)
        (written kind (cs.filter (!isDropped ·)))))) := by
  simp only [push?, h, Bool.false_eq_true, if_false]
  rfl

/-- **The segment of a text that is told** stands behind the others. -/
theorem push?_of_tells (hsettled : settle kind all = all) (h : Tells kind all cs) :
    push? kind cs (.segments all) = some (.segments (stem all ++ [written kind cs])) := by
  have hadds := h.adds
  have hnot : cs ≠ ['.'] ∧ cs ≠ ['.', '.'] := by
    simpa [addsNothing] using hadds
  have hdot : isDot (written kind cs) = false := by
    rw [← Bool.not_eq_true]
    exact fun hdot => hnot.1 (eq_of_isDot_written hdot)
  have hdots : isDoubleDot (written kind cs) = false := by
    rw [← Bool.not_eq_true]
    exact fun hdots => hnot.2 (eq_of_isDoubleDot_written hdots)
  have hadd : addSegment kind true (stem all) (written kind cs) =
      stem all ++ [written kind cs] := by
    rw [addSegment, hdots, if_neg Bool.false_ne_true, hdot, if_neg Bool.false_ne_true]
    cases hstem : stem all with
    | nil =>
      rw [firstSegment_written (h.drive_of_stem hstem)]
      rfl
    | cons first rest => rfl
  rw [push?_of_adds hadds, front_eq_stem h.not_slashes,
    filter_not_isDropped_eq_self_iff.mpr h.keeps, hadd, settle_stem_append hsettled]

/-- **What becomes of the segments after a last step**: they end in a slash, or else the step is the
last of them. -/
theorem addSegment_last (kind : SchemeKind) (front : List (List Char)) (seg : List Char) :
    (∃ others, addSegment kind true front seg = others ++ [[]]) ∨
      (front = [] ∧ addSegment kind true front seg = [firstSegment kind seg]) ∨
        front ≠ [] ∧ addSegment kind true front seg = front ++ [seg] := by
  unfold addSegment
  by_cases hdots : isDoubleDot seg = true
  · exact Or.inl ⟨stepUp front, if_pos hdots⟩
  · rw [if_neg hdots]
    by_cases hdot : isDot seg = true
    · exact Or.inl ⟨front, if_pos hdot⟩
    · rw [if_neg hdot]
      cases front with
      | nil => exact Or.inr (Or.inl ⟨rfl, rfl⟩)
      | cons first rest => exact Or.inr (Or.inr ⟨List.cons_ne_nil _ _, rfl⟩)

/-- Without an empty last segment a path does not have one more. -/
theorem dropEmptyLast_ne_stem_append (hseg : seg ≠ []) : dropEmptyLast all ≠ stem all ++ [seg] := by
  intro h
  by_cases hlast : all.getLast? = some []
  · have hstem : stem all = all.dropLast := if_pos hlast
    rw [hstem] at h
    by_cases hlength : 1 < all.length
    · have hdrop : dropEmptyLast all = all.dropLast := if_pos ⟨hlength, hlast⟩
      simp [hdrop] at h
    · have hdrop : dropEmptyLast all = all := if_neg fun h => hlength h.1
      rw [← hdrop, h, List.getLast?_concat] at hlast
      exact hseg (Option.some.inj hlast)
  · have hstem : stem all = all := if_neg hlast
    have hdrop : dropEmptyLast all = all := if_neg fun h => hlast h.2
    simp [hstem, hdrop] at h

/-- Letters are kept in a segment. -/
theorem keepsInSegment_of_isAlpha (kind : SchemeKind) {c : Char} (h : c.isAlpha = true) :
    keepsInSegment kind c = true := by
  have hword : c.isAlphanum = true := by rw [Char.isAlphanum, h, Bool.true_or]
  have hrange := Text.toNat_of_isAlphanum hword
  have hvisible : (decide (0x20 < c.toNat) && decide (c.toNat < 0x7F)) = true := by
    simp only [Bool.and_eq_true, decide_eq_true_eq]
    omega
  have hothers : ∀ others : List Char, (others.all fun d => !d.isAlpha) = true →
      others.contains c = false := by
    intro others hall
    rw [← Bool.not_eq_true, List.contains_iff_mem]
    intro hc
    simpa [h] using List.all_eq_true.mp hall c hc
  rw [keepsInSegment, keepsAllBut, hvisible, hothers]
  · rfl
  · cases kind <;> decide

/-- A drive is written with the characters of its name. -/
theorem written_of_isDrive (h : isDrive cs = true) : written kind cs = cs := by
  obtain ⟨c, d, rfl, hc, hd⟩ := exists_of_isDrive h
  have hmark : keepsInSegment kind d = true := by
    rcases hd with rfl | rfl <;> cases kind <;> decide
  refine Text.percentEncode_of_forall ?_
  simp [keepsInSegment_of_isAlpha kind hc, hmark]

/-- What is written as a drive stays so. -/
theorem firstSegment_eq_self_of_written
    (h : firstSegment kind (written kind cs) = written kind cs) : firstSegment kind cs = cs := by
  by_cases hdrive : isDrive cs = true
  · rwa [written_of_isDrive hdrive] at h
  · exact if_neg fun h => hdrive h.2

/-- A drive has no character that is dropped. -/
theorem isDropped_of_isDrive (h : isDrive cs = true) : ∀ c ∈ cs, isDropped c = false := by
  obtain ⟨c, d, rfl, hc, hd⟩ := exists_of_isDrive h
  have hletter : isDropped c = false := by
    rw [← Bool.not_eq_true]
    intro hdropped
    simp only [isDropped, Bool.or_eq_true, beq_iff_eq] at hdropped
    rcases hdropped with (rfl | rfl) | rfl <;> cases hc
  have hmark : isDropped d = false := by
    rcases hd with rfl | rfl <;> decide
  simp [hletter, hmark]

/-- A segment that starts a path names a drive if it did so before. -/
theorem isDrive_firstSegment (kind : SchemeKind) (cs : List Char) :
    isDrive (firstSegment kind cs) = isDrive cs := by
  by_cases h : kind = .file ∧ isDrive cs = true
  · obtain ⟨c, d, rfl, hc, hd⟩ := exists_of_isDrive h.2
    rw [h.2, firstSegment, if_pos h]
    simp [isDrive, hc]
  · rw [firstSegment, if_neg h]

/-- A segment is made the first one once. -/
theorem firstSegment_firstSegment (kind : SchemeKind) (cs : List Char) :
    firstSegment kind (firstSegment kind cs) = firstSegment kind cs := by
  by_cases h : kind = .file ∧ isDrive cs = true
  · obtain ⟨c, d, rfl, hc, hd⟩ := exists_of_isDrive h.2
    have hfirst : firstSegment kind [c, d] = [c, ':'] := if_pos h
    rw [hfirst]
    exact ite_self _
  · have hfirst : firstSegment kind cs = cs := if_neg h
    rw [hfirst, hfirst]

/-- A first segment spells a text only if that one has no dropped characters and is no other
drive. -/
theorem keeps_of_percentDecode_firstSegment
    (hdecode : Text.percentDecode (firstSegment kind
      (written kind (cs.filter (!isDropped ·)))) = .ok cs) :
    (∀ c ∈ cs, isDropped c = false) ∧ firstSegment kind cs = cs := by
  by_cases hdrive : isDrive (written kind (cs.filter (!isDropped ·))) = true
  · rw [← isDrive_firstSegment kind] at hdrive
    rw [percentDecode_of_isDrive hdrive] at hdecode
    have hcs := Except.ok.inj hdecode
    rw [← hcs]
    exact ⟨isDropped_of_isDrive hdrive, firstSegment_firstSegment _ _⟩
  · have hfirst : firstSegment kind (written kind (cs.filter (!isDropped ·))) =
        written kind (cs.filter (!isDropped ·)) :=
      if_neg fun h => hdrive h.2
    rw [hfirst, percentDecode_written_iff] at hdecode
    rw [hdecode] at hfirst
    exact ⟨filter_not_isDropped_eq_self_iff.mp hdecode, firstSegment_eq_self_of_written hfirst⟩

/-- **There are no other texts** whose segment stands behind the others and spells them. -/
theorem tells_of_push? (hcs : cs ≠ [])
    (hpush : push? kind cs (.segments all) = some (.segments (stem all ++ [seg])))
    (hdecode : Text.percentDecode seg = .ok cs) : Tells kind all cs := by
  have hseg : seg ≠ [] := by
    rintro rfl
    exact hcs (Except.ok.inj hdecode).symm
  cases hadds : addsNothing cs with
  | true =>
    simp only [push?, hadds, if_true] at hpush
    cases dropEmptyLast_ne_stem_append hseg (UrlPath.segments.inj (Option.some.inj hpush))
  | false =>
    rw [push?_of_adds hadds] at hpush
    have hpath := UrlPath.segments.inj (Option.some.inj hpush)
    have hlast := congrArg List.getLast? hpath
    rw [List.getLast?_concat] at hlast
    rcases addSegment_last kind (if dropEmptyLast all = [[]] then [] else dropEmptyLast all)
        (written kind (cs.filter (!isDropped ·)))
      with ⟨others, hslash⟩ | ⟨hfront, hfirst⟩ | ⟨hfront, hbehind⟩
    · -- A path that ends in a slash has an empty last segment.
      rw [hslash, getLast?_settle_concat] at hlast
      cases hseg (Option.some.inj hlast).symm
    · rw [hfirst, settle_singleton] at hpath
      obtain ⟨hstem, hone⟩ := List.append_inj' ((List.nil_append _).trans hpath) rfl
      obtain ⟨rfl, -⟩ := List.cons.inj hone
      obtain ⟨hkeeps, hdrive⟩ := keeps_of_percentDecode_firstSegment hdecode
      refine ⟨hadds, hkeeps, ?_, fun _ => hdrive⟩
      rintro rfl
      cases hstem
    · rw [hbehind, getLast?_settle_concat] at hlast
      obtain rfl := Option.some.inj hlast
      have hslashes : all ≠ [[], []] := by
        rintro rfl
        exact hfront rfl
      rw [front_eq_stem hslashes] at hfront
      exact ⟨hadds, filter_not_isDropped_eq_self_iff.mp (percentDecode_written_iff.mp hdecode),
        hslashes, fun hstem => absurd hstem hfront⟩

/-- Which segment is added does not change whether a path looks like a host. -/
theorem startsWithHost_append (front : List (List Char)) (a b : List Char) :
    (segments (front ++ [a])).startsWithHost = (segments (front ++ [b])).startsWithHost := by
  rcases front with - | ⟨_ | _, _ | _⟩
  · cases a <;> cases b <;> rfl
  all_goals rfl

end UrlPath

namespace Url

/-- **A URL that is read** has the segments that its scheme settles on. -/
theorem settle_of_read {cs : List Char} {u : Url} {all : List (List Char)} (h : read cs = .ok u)
    (hpath : u.path = .segments all) : UrlPath.settle u.kind all = all := by
  unfold read at h
  cases hscheme : scanScheme? (strip cs) with
  | none =>
    rw [hscheme] at h
    cases h
  | some found =>
    rw [hscheme] at h
    obtain ⟨place, -, h⟩ := bind_eq_ok_iff.mp h
    dsimp only at h
    split at h
    · cases h
      cases hpath
    · cases h
      cases hpath
      exact UrlPath.settle_settle _ _

end Url

end CatalogSearch
