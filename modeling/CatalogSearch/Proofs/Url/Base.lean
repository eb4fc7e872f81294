import CatalogSearch.Gateway.Endpoint
import CatalogSearch.Proofs.Url.HostEnd
import CatalogSearch.Proofs.Url.PlainPath

/-! # Bases

A base is a text with the URL of a server, to which a path is put as text. Its place stays where it
is if a slash comes between the two, and so do the segments of its path.

* **`Url.IsBase`**: a base in its parts;
* **`Url.exists_isBase`**: all texts with the URL of a server are bases;
* **`Url.endsPath`**: what ends a path;
* **`Url.seat`**: a base up to the slash before a path;
* **`Url.Meets`**, **`Url.IsBase.exists_meets`**: bases and plain paths with a slash between them;
* **`Url.path_ofServer_joinWith`**: the path of what is read of them. -/

namespace CatalogSearch.Url

/-! ## The parts of a base -/

variable {scheme : String} {a : Authority} {b e : Url}
  {base path lead place after pad before more : List Char} {segs : List (List Char)} {slash : Char}

/-- **A base in its parts**: what leads to its place, that, what follows it, and blanks that do not
count as long as nothing stands behind them. -/
structure IsBase (scheme : String) (a : Authority) (base lead place after pad : List Char) :
    Prop where
  server : SchemeKind.ofScheme scheme = .server
  leads : Leads scheme lead
  isPlace : IsPlace place
  follows : FollowsPlace after
  pad_eq : pad = (kept base).rtakeWhile isPadding
  kept_eq : kept base = lead ++ (place ++ (after ++ pad))
  authority_eq : authorityOf scheme place = .ok a

/-- **Every base of a server has these parts.** -/
theorem exists_isBase (hread : read base = .ok b) (hkind : b.kind = .server) :
    ∃ a lead place after pad, IsBase b.scheme a base lead place after pad ∧
      b = ofServer b.scheme a after := by
  obtain ⟨lead, place, after, hlead, hplace, hafter, hstrip⟩ := exists_parts_of_read hread hkind
  have hparts := read_of_parts hkind hlead hplace hafter hstrip
  rw [hread] at hparts
  obtain ⟨a, ha, hb⟩ := map_eq_ok_iff.mp hparts.symm
  refine ⟨a, lead, place, after, (kept base).rtakeWhile isPadding, ?_, hb.symm⟩
  refine ⟨hkind, hlead, hplace, hafter, rfl, ?_, ha⟩
  have hkept : (kept base).rdropWhile isPadding ++ (kept base).rtakeWhile isPadding = kept base :=
    List.rdropWhile_append_rtakeWhile
  rw [← strip_eq_rdropWhile, hstrip] at hkept
  exact hkept.symm.trans (by simp only [List.append_assoc])

/-- What does not count of a base are blanks and controls. -/
theorem IsBase.pad_blank (h : IsBase scheme a base lead place after pad) :
    ∀ c ∈ pad, isPadding c = true := by
  intro c hc
  rw [h.pad_eq] at hc
  exact List.mem_rtakeWhile_imp hc

/-- A base has a colon, whether or not it ends in slashes. -/
theorem IsBase.exists_not_padding (h : IsBase scheme a base lead place after pad) :
    ∃ c ∈ base.rdropWhile isSlash, isPadding c = false := by
  refine ⟨':', ?_, rfl⟩
  have hlead : ':' ∈ lead := by
    cases h.leads
    simp
  have hkept : ':' ∈ kept base := by
    rw [h.kept_eq]
    exact List.mem_append_left _ hlead
  have hbase : ':' ∈ base.rdropWhile isSlash ++ base.rtakeWhile isSlash := by
    rw [List.rdropWhile_append_rtakeWhile]
    exact (List.dropWhile_suffix _).subset (List.mem_of_mem_filter hkept)
  refine (List.mem_append.mp hbase).resolve_right fun hslash => ?_
  cases List.mem_rtakeWhile_imp hslash

/-- The slashes at the end of a base. -/
theorem exists_eq_append_slashes (base : List Char) :
    ∃ k, base = base.rdropWhile isSlash ++ List.replicate k '/' := by
  refine ⟨(base.rtakeWhile isSlash).length, ?_⟩
  have hslashes : base.rtakeWhile isSlash =
      List.replicate (base.rtakeWhile isSlash).length '/' := by
    refine List.eq_replicate_of_mem fun c hc => ?_
    have hslash : isSlash c = true := List.mem_rtakeWhile_imp hc
    exact beq_iff_eq.mp hslash
  rw [← hslashes, List.rdropWhile_append_rtakeWhile]

/-- **Without the slashes at its end** a base has the same place, and what follows it but for
these. -/
theorem IsBase.exists_before (h : IsBase scheme a base lead place after pad) :
    ∃ before k, kept (base.rdropWhile isSlash) = lead ++ (place ++ before) ∧
      after ++ pad = before ++ List.replicate k '/' := by
  obtain ⟨k, hbase⟩ := exists_eq_append_slashes base
  have hkept : kept base = kept (base.rdropWhile isSlash) ++ List.replicate k '/' := by
    conv_lhs => rw [hbase]
    rw [kept_append h.exists_not_padding, List.filter_replicate]
    rfl
  rw [h.kept_eq, ← List.append_assoc] at hkept
  rcases List.append_eq_append_iff.mp hkept with ⟨before, hlead, hafter⟩ | ⟨cut, hlead, hslashes⟩
  · exact ⟨before, k, by rw [hlead, List.append_assoc], hafter⟩
  · -- A place does not end in a slash.
    rcases List.eq_nil_or_concat' cut with rfl | ⟨cut, c, rfl⟩
    · rw [List.append_nil] at hlead
      exact ⟨[], k, by rw [← hlead, List.append_nil], by rw [hslashes]; rfl⟩
    · have hc : c = '/' := by
        refine List.eq_of_mem_replicate (n := k) ?_
        rw [hslashes]
        simp
      obtain ⟨front, d, hplace⟩ := (List.eq_nil_or_concat' place).resolve_left h.isPlace.ne_nil
      rw [hplace, ← List.append_assoc, ← List.append_assoc] at hlead
      have hd : d = c := List.singleton_inj.mp (List.append_inj' hlead rfl).2
      have hend := h.isPlace.not_end d (hplace ▸ List.mem_concat_self)
      rw [hd, hc] at hend
      cases hend

/-! ## Texts that are joined -/

/-- **The base of a text** up to the slash before a path, if there is one. -/
def seat (base path : List Char) : List Char :=
  if path.head? = some '/' then base.rdropWhile isSlash ++ ['/'] else base

/-- The slashes at the end of a base make room for that of a path. -/
theorem joinPath_slash (base rest : List Char) :
    joinPath base ('/' :: rest) = base.rdropWhile isSlash ++ '/' :: rest := by
  rw [joinPath]
  split
  · rfl
  · next hnot =>
    have hself : base.rdropWhile isSlash = base := by
      refine List.rdropWhile_eq_self_iff.mpr fun hne hslash => hnot ⟨?_, rfl⟩
      rw [List.getLast?_eq_some_getLast hne, beq_iff_eq.mp hslash]
    rw [hself]

/-- Without a slash in front a path just follows the base. -/
theorem joinPath_of_head? (hpath : path.head? ≠ some '/') : joinPath base path = base ++ path :=
  if_neg fun h => hpath h.2

/-- The slash of a path ends the seat. -/
theorem seat_slash (base rest : List Char) :
    seat base ('/' :: rest) = base.rdropWhile isSlash ++ ['/'] :=
  if_pos rfl

/-- Without a slash in front of the path, the seat is the base. -/
theorem seat_of_head? (hpath : path.head? ≠ some '/') : seat base path = base := if_neg hpath

/-- What ends a path. -/
def endsPath (c : Char) : Bool := c == '?' || c == '#'

/-- No slash ends a path. -/
theorem endsPath_of_isSlash (hslash : SchemeKind.server.isSlash slash = true) :
    endsPath slash = false := by
  simp only [SchemeKind.isSlash, Bool.or_eq_true, Bool.and_eq_true, beq_iff_eq] at hslash
  rcases hslash with rfl | ⟨-, rfl⟩ <;> rfl

/-- No plain character ends a path. -/
theorem endsPath_of_isPlainChar {c : Char} (hc : UrlPath.isPlainChar c = true) :
    endsPath c = false :=
  (Bool.not_eq_true' _).mp (UrlPath.of_isPlainChar (p := fun c => !endsPath c) (by decide) hc)

/-- A path goes on up to what ends it. -/
theorem pathText_eq_takeWhile (after : List Char) :
    pathText after = after.takeWhile (!endsPath ·) := by
  change (after.takeWhile (· != '#')).takeWhile (· != '?') = _
  rw [List.takeWhile_takeWhile]
  refine congrArg (fun p => after.takeWhile p) (funext fun c => ?_)
  rw [Bool.eq_iff_iff]
  simp [endsPath]

/-- A text that goes on behind the end of a path has the same path. -/
theorem pathText_append (hend : ∃ c ∈ after, endsPath c = true) (more : List Char) :
    pathText (after ++ more) = pathText after := by
  obtain ⟨c, hc, hends⟩ := hend
  rw [pathText_eq_takeWhile, pathText_eq_takeWhile, List.takeWhile_append, if_neg]
  intro hlength
  have hall := (List.takeWhile_prefix _).eq_of_length hlength
  have hgoes := List.takeWhile_eq_self_iff.mp hall c hc
  simp [hends] at hgoes

/-- A text that nothing ends is a path. -/
theorem pathText_eq_self (hmarks : ∀ c ∈ after, endsPath c = false) : pathText after = after := by
  rw [pathText_eq_takeWhile]
  exact List.takeWhile_eq_self_iff.mpr fun c hc => by simp [hmarks c hc]

/-- Nothing follows a mark that is not there. -/
theorem splitMark_snd_eq_none_iff {mark : Char} {cs : List Char} :
    (splitMark mark cs).2 = none ↔ ∀ c ∈ cs, (c != mark) = true := by
  rw [← List.dropWhile_eq_nil_iff, splitMark]
  cases cs.dropWhile (· != mark) <;> simp

/-- **Without query and fragment** all that follows a place is its path. -/
theorem query_fragment_eq_none_iff :
    ((ofServer scheme a after).query = none ∧ (ofServer scheme a after).fragment = none) ↔
      ∀ c ∈ after, endsPath c = false := by
  simp only [ofServer, Option.map_eq_none_iff, splitMark_snd_eq_none_iff]
  constructor
  · rintro ⟨hquery, hfragment⟩ c hc
    have hpath : (splitMark '#' after).1 = after := List.takeWhile_eq_self_iff.mpr hfragment
    rw [hpath] at hquery
    have hq := hquery c hc
    have hf := hfragment c hc
    simp only [bne_iff_ne, ne_eq] at hq hf
    simp [endsPath, hq, hf]
  · intro hmarks
    have hnot : ∀ c ∈ after, c ≠ '?' ∧ c ≠ '#' := fun c hc => by simpa [endsPath] using hmarks c hc
    refine ⟨fun c hc => ?_, fun c hc => bne_iff_ne.mpr (hnot c hc).2⟩
    exact bne_iff_ne.mpr (hnot c ((List.takeWhile_prefix _).subset hc)).1

/-- What follows a place and is a path starts at a slash. -/
theorem startsAtSlash_of_followsPlace (hafter : FollowsPlace after)
    (hmarks : ∀ c ∈ after, endsPath c = false) : UrlPath.StartsAtSlash after := by
  intro c hc
  have hend := hafter c hc
  have hmark := hmarks c (List.mem_of_mem_head? hc)
  rw [endsPath, Bool.or_eq_false_iff] at hmark
  rwa [endsAuthority, hmark.1, hmark.2, Bool.or_false, Bool.or_false] at hend

/-- A path follows a place. -/
theorem followsPlace_append_slash (hbefore : UrlPath.StartsAtSlash before)
    (hslash : SchemeKind.server.isSlash slash = true) (more : List Char) :
    FollowsPlace (before ++ slash :: more) := by
  intro c hc
  have hslash' : SchemeKind.server.isSlash c = true := by
    cases before with
    | nil =>
      rw [← Option.some.inj hc]
      exact hslash
    | cons d before => exact hbefore c hc
  rw [endsAuthority, hslash']
  rfl

/-- **What is read of a base and a plain path without a slash in front.** -/
theorem IsBase.strip_append_joinWith (h : IsBase scheme a base lead place after pad)
    (hne : segs ≠ []) (hsegs : ∀ seg ∈ segs, UrlPath.IsPlain seg) :
    strip (joinPath base (Text.joinWith ['/'] segs)) =
      lead ++ (place ++ (after ++ pad ++ Text.joinWith ['/'] segs)) := by
  obtain ⟨c, rest, hfirst, hc⟩ := UrlPath.exists_joinWith_eq_cons hne hsegs
  have hhead : (Text.joinWith ['/'] segs).head? ≠ some '/' := by
    rw [hfirst]
    rintro ⟨rfl⟩
    cases hc
  obtain ⟨d, hd, hcounts⟩ := h.exists_not_padding
  rw [joinPath_of_head? hhead, strip_append ⟨d, (List.rdropWhile_prefix _ base).subset hd, hcounts⟩
    (hfirst ▸ List.cons_ne_nil c rest) fun c hc => UrlPath.isPadding_of_mem_joinWith hsegs hc,
    h.kept_eq]
  simp only [List.append_assoc]

/-- **What is read of a base and a plain path with a slash in front.** -/
theorem IsBase.strip_append_slash (h : IsBase scheme a base lead place after pad)
    (hbefore : kept (base.rdropWhile isSlash) = lead ++ (place ++ before))
    (hsegs : ∀ seg ∈ segs, UrlPath.IsPlain seg) :
    strip (joinPath base ('/' :: Text.joinWith ['/'] segs)) =
      lead ++ (place ++ (before ++ '/' :: Text.joinWith ['/'] segs)) := by
  rw [joinPath_slash, strip_append h.exists_not_padding (List.cons_ne_nil _ _), hbefore]
  · simp only [List.append_assoc]
  · exact List.forall_mem_cons.mpr
      ⟨rfl, fun c hc => UrlPath.isPadding_of_mem_joinWith hsegs hc⟩

/-! ## Where base and path have a slash between them -/

/-- **The path of what follows a place**, where a slash comes before named steps: the segments of
what is before it, and then these. -/
theorem path_ofServer (hbefore : UrlPath.StartsAtSlash before)
    (hmarks : ∀ c ∈ before, endsPath c = false) (hslash : SchemeKind.server.isSlash slash = true)
    (hmore : ∀ c ∈ more, endsPath c = false)
    (hsteps : ∀ seg ∈ UrlPath.steps more, UrlPath.IsNamed seg) :
    (ofServer scheme a (before ++ slash :: more)).path =
      .segments (UrlPath.walked before ++ UrlPath.steps more) := by
  have hall : ∀ c ∈ before ++ slash :: more, endsPath c = false :=
    List.forall_mem_append.mpr
      ⟨hmarks, List.forall_mem_cons.mpr ⟨endsPath_of_isSlash hslash, hmore⟩⟩
  change UrlPath.segments (UrlPath.resolve .server (pathText _)) = _
  rw [pathText_eq_self hall, UrlPath.resolve_append hbefore hslash hsteps]

/-- Plain segments stand behind those of what is before a slash. -/
theorem path_ofServer_joinWith (hbefore : UrlPath.StartsAtSlash before)
    (hmarks : ∀ c ∈ before, endsPath c = false) (hslash : SchemeKind.server.isSlash slash = true)
    (hne : segs ≠ []) (hsegs : ∀ seg ∈ segs, UrlPath.IsPlain seg) :
    (ofServer scheme a (before ++ slash :: Text.joinWith ['/'] segs)).path =
      .segments (UrlPath.walked before ++ segs) := by
  have hsteps := UrlPath.steps_joinWith hne hsegs
  rw [path_ofServer hbefore hmarks hslash, hsteps]
  · exact fun c hc => UrlPath.of_mem_joinWith (p := fun c => endsPath c = false)
      (fun _ => endsPath_of_isPlainChar) rfl hsegs hc
  · rw [hsteps]
    exact fun seg hseg => (hsegs seg hseg).isNamed

/-- What is read where a slash follows a place, or a path behind it. -/
theorem IsBase.read_eq_ok (h : IsBase scheme a base lead place after pad)
    (hbefore : UrlPath.StartsAtSlash before) (hslash : SchemeKind.server.isSlash slash = true)
    {cs : List Char} (hcs : strip cs = lead ++ (place ++ (before ++ slash :: more))) :
    read cs = .ok (ofServer scheme a (before ++ slash :: more)) := by
  rw [read_of_parts h.server h.leads h.isPlace (followsPlace_append_slash hbefore hslash more) hcs,
    h.authority_eq]
  rfl

/-- **A base and a path that meet at a slash**, in the parts of the text that they make. -/
structure Meets (lead place before : List Char) (slash : Char) (base path after : List Char)
    (segs : List (List Char)) : Prop where
  isSlash : SchemeKind.server.isSlash slash = true
  starts : UrlPath.StartsAtSlash before
  no_marks : ∀ c ∈ before, endsPath c = false
  joined : strip (joinPath base path) =
    lead ++ (place ++ (before ++ slash :: Text.joinWith ['/'] segs))
  seat : strip (seat base path) = lead ++ (place ++ (before ++ [slash]))
  bare : UrlPath.bare (UrlPath.resolve .server after) = UrlPath.bare (UrlPath.walked before)

/-- The first part of a path starts at a slash if the path does. -/
theorem startsAtSlash_of_isPrefix (hpre : before <+: after) (h : UrlPath.StartsAtSlash after) :
    UrlPath.StartsAtSlash before := by
  obtain ⟨rest, rfl⟩ := hpre
  intro c hc
  exact h c (by rw [List.head?_append, hc]; rfl)

/-- A slash at the end of a base is no part of its place. -/
theorem IsBase.exists_after_eq_concat (h : IsBase scheme a base lead place after [])
    (hlast : (kept base).getLast? = some slash) (hslash : SchemeKind.server.isSlash slash = true) :
    ∃ before, after = before ++ [slash] := by
  rw [h.kept_eq, List.append_nil] at hlast
  rcases List.eq_nil_or_concat' after with rfl | ⟨before, d, rfl⟩
  · obtain ⟨front, d, rfl⟩ := (List.eq_nil_or_concat' place).resolve_left h.isPlace.ne_nil
    rw [List.append_nil, ← List.append_assoc, List.getLast?_concat] at hlast
    have hend := h.isPlace.not_end d List.mem_concat_self
    rw [Option.some.inj hlast, endsAuthority, hslash] at hend
    cases hend
  · rw [← List.append_assoc, ← List.append_assoc, List.getLast?_concat] at hlast
    exact ⟨before, by rw [Option.some.inj hlast]⟩

/-- **A base and a plain path meet at a slash** if one of them has one there. -/
theorem IsBase.exists_meets (h : IsBase scheme a base lead place after [])
    (hmarks : ∀ c ∈ after, endsPath c = false) (hpath : UrlPath.IsPlainPath path segs)
    (hslash : path.head? = some '/' ∨
      ∃ c, (kept base).getLast? = some c ∧ SchemeKind.server.isSlash c = true) :
    ∃ before slash, Meets lead place before slash base path after segs := by
  have hstarts := startsAtSlash_of_followsPlace h.follows hmarks
  obtain ⟨c, rest, hfirst, hc⟩ := UrlPath.exists_joinWith_eq_cons hpath.ne_nil hpath.plain
  have hkept := h.kept_eq
  rw [List.append_nil] at hkept
  -- The slash is the last one of the base, or else the first one of the path.
  rcases hpath.text with rfl | rfl
  · have hhead : (Text.joinWith ['/'] segs).head? ≠ some '/' := by
      rw [hfirst]
      rintro ⟨rfl⟩
      cases hc
    obtain ⟨slash, hlast, hslash⟩ := hslash.resolve_left hhead
    obtain ⟨before, rfl⟩ := h.exists_after_eq_concat hlast hslash
    have hpre : before <+: before ++ [slash] := List.prefix_append before [slash]
    refine ⟨before, slash, hslash, startsAtSlash_of_isPrefix hpre hstarts,
      fun c hc => hmarks c (hpre.subset hc), ?_, ?_, ?_⟩
    · rw [h.strip_append_joinWith hpath.ne_nil hpath.plain]
      simp only [List.append_assoc, List.singleton_append]
    · rw [seat_of_head? hhead, strip_eq_rdropWhile, hkept, ← List.append_assoc, ← List.append_assoc]
      refine List.rdropWhile_concat_neg _ _ _ fun hpadding => ?_
      cases (UrlPath.isSlash_of_isPadding hpadding).symm.trans hslash
    · have hnone : ∀ seg ∈ UrlPath.steps [], UrlPath.IsNamed seg :=
        List.forall_mem_singleton.mpr UrlPath.isNamed_nil
      rw [UrlPath.resolve_append (startsAtSlash_of_isPrefix hpre hstarts) hslash hnone]
      exact UrlPath.bare_concat_nil _
  · obtain ⟨before, k, hbefore, hafter⟩ := h.exists_before
    rw [List.append_nil] at hafter
    have hpre : before <+: after := ⟨_, hafter.symm⟩
    have hbeforeStarts := startsAtSlash_of_isPrefix hpre hstarts
    refine ⟨before, '/', rfl, hbeforeStarts, fun c hc => hmarks c (hpre.subset hc), ?_, ?_, ?_⟩
    · exact h.strip_append_slash hbefore hpath.plain
    · rw [seat_slash, strip_append h.exists_not_padding (List.cons_ne_nil _ _), hbefore]
      · simp only [List.append_assoc]
      · exact List.forall_mem_singleton.mpr rfl
    · rw [hafter]
      exact UrlPath.bare_resolve_append_slashes hbeforeStarts k

end CatalogSearch.Url
