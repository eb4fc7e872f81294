import CatalogSearch.Proofs.Url.Base

/-! # Where base and path meet

A base and a path are made one text, and only that text is read. Whether what is read is where the
base leads, with the segments of the path behind its own, depends on what stands where they meet.

* **`Url.StaysAt`**: a URL at the host and port of another one, and behind its path;
* **`Url.Seam`**: bases and paths that meet at a single slash;
* **`Url.exists_staysAt_of_seam`**: a plain path is found behind a base if they meet so;
* **`Url.seam_of_read`**: it is not found there else. -/

namespace CatalogSearch.Url

/-! ## Bases and paths that meet -/

/-- The segments of a URL. -/
def segments (u : Url) : List (List Char) :=
  match u.path with
  | .segments all => all
  | .plain _ => []

/-- **A URL stays at another one** with some more segments: it has its host and port, and its path
without the slashes at the end, and then these segments. -/
structure StaysAt (u b : Url) (more : List (List Char)) : Prop where
  host : u.authority.map (·.host) = b.authority.map (·.host)
  port : u.authority.map (·.port) = b.authority.map (·.port)
  path : u.path = .segments (UrlPath.bare b.segments ++ more)

/-- **Base and path meet at a single slash**: no query and no fragment has begun before, no blank is
between them, one of them has a slash there, and there is no empty segment before it. -/
structure Seam (base path : List Char) (b : Url) : Prop where
  no_query : b.query = none
  no_fragment : b.fragment = none
  no_blank : ∀ c, (kept base).getLast? = some c → isPadding c = false
  slash : path.head? = some '/' ∨
    ∃ c, (kept base).getLast? = some c ∧ SchemeKind.server.isSlash c = true
  single : ∀ d, read (seat base path) = .ok d → ¬ [[], []] <:+ d.segments

instance (u b : Url) (more : List (List Char)) : Decidable (u.StaysAt b more) :=
  decidable_of_iff
    (u.authority.map (·.host) = b.authority.map (·.host) ∧
      u.authority.map (·.port) = b.authority.map (·.port) ∧
      u.path = .segments (UrlPath.bare b.segments ++ more))
    ⟨fun ⟨host, port, path⟩ => ⟨host, port, path⟩, fun h => ⟨h.host, h.port, h.path⟩⟩

instance (base path : List Char) (b : Url) : Decidable (Seam base path b) :=
  decidable_of_iff
    (b.query = none ∧ b.fragment = none ∧
      (kept base).getLast?.any isPadding = false ∧
      (path.head? = some '/' ∨ (kept base).getLast?.any SchemeKind.server.isSlash = true) ∧
      ∀ d, read (seat base path) = .ok d → ¬ [[], []] <:+ d.segments)
    (by
      rw [Option.any_eq_false, Option.any_eq_true]
      exact ⟨fun ⟨no_query, no_fragment, no_blank, slash, single⟩ =>
          ⟨no_query, no_fragment, no_blank, slash, single⟩,
        fun h => ⟨h.no_query, h.no_fragment, h.no_blank, h.slash, h.single⟩⟩)

variable {scheme : String} {a : Authority} {b e : Url}
  {base path lead place after pad before : List Char} {segs : List (List Char)}

/-- Segments are bare if there are not two empty ones with one more. -/
theorem bare_eq_self_iff {all : List (List Char)} :
    UrlPath.bare all = all ↔ ¬ [[], []] <:+ all ++ [[]] := by
  rcases List.eq_nil_or_concat' all with rfl | ⟨all, seg, rfl⟩
  · refine iff_of_true rfl fun h => ?_
    have hlength := h.length_le
    simp at hlength
  · have hsuffix : [[], []] <:+ all ++ [seg] ++ [[]] ↔ seg = [] := by
      rw [List.append_assoc]
      constructor
      · rintro ⟨front, hfront⟩
        have hlast := (List.append_inj' hfront rfl).2
        exact (List.cons.inj hlast).1.symm
      · rintro rfl
        exact List.suffix_append all _
    rw [hsuffix]
    constructor
    · rintro hbare rfl
      rw [UrlPath.bare_concat_nil] at hbare
      have hlength := (UrlPath.bare_isPrefix all).length_le
      rw [hbare, List.length_append, List.length_singleton] at hlength
      omega
    · intro hseg
      exact UrlPath.bare_concat hseg all

/-! ## With a single slash -/

/-- **What is read of a base and a plain path with a slash between them.** -/
theorem IsBase.exists_joined (h : IsBase scheme a base lead place after pad)
    {slash : Char} (hmeets : Meets lead place before slash base path after segs)
    (hpath : UrlPath.IsPlainPath path segs) :
    ∃ e, read (joinPath base path) = .ok e ∧ e.scheme = scheme ∧ e.authority = some a ∧
      e.path = .segments (UrlPath.walked before ++ segs) :=
  ⟨_, h.read_eq_ok hmeets.starts hmeets.isSlash hmeets.joined, rfl, rfl,
    path_ofServer_joinWith hmeets.starts hmeets.no_marks hmeets.isSlash hpath.ne_nil hpath.plain⟩

/-- What is read of a base up to the slash before a path. -/
theorem IsBase.exists_seat (h : IsBase scheme a base lead place after pad)
    {slash : Char} (hmeets : Meets lead place before slash base path after segs) :
    ∃ d, read (seat base path) = .ok d ∧ d.segments = UrlPath.walked before ++ [[]] := by
  refine ⟨_, h.read_eq_ok hmeets.starts hmeets.isSlash hmeets.seat, ?_⟩
  rw [segments, path_ofServer hmeets.starts hmeets.no_marks hmeets.isSlash]
  · rfl
  · exact fun c hc => absurd hc List.not_mem_nil
  · exact List.forall_mem_singleton.mpr UrlPath.isNamed_nil

/-! ## Without a single slash -/

/-- **A URL goes astray**: its segments are not those of another one with some more. -/
def Astray (e b : Url) (segs : List (List Char)) : Prop :=
  e.scheme = b.scheme ∧ UrlPath.bare e.segments ≠ UrlPath.bare b.segments ++ segs

/-- What is read where a place and something else follow one another. -/
theorem IsBase.eq_ofServer (h : IsBase scheme a base lead place after pad)
    {place' after' cs : List Char} (hplace : IsPlace place') (hafter : FollowsPlace after')
    (hcs : strip cs = lead ++ (place' ++ after')) (he : read cs = .ok e) :
    ∃ a', authorityOf scheme place' = .ok a' ∧ e = ofServer scheme a' after' := by
  rw [read_of_parts h.server h.leads hplace hafter hcs] at he
  obtain ⟨a', ha', he⟩ := map_eq_ok_iff.mp he
  exact ⟨a', ha', he.symm⟩

/-- What starts as what follows a place follows it. -/
theorem followsPlace_append {after : List Char} (hne : after ≠ []) (hafter : FollowsPlace after)
    (more : List Char) : FollowsPlace (after ++ more) := by
  intro c hc
  rw [List.head?_append_of_ne_nil _ hne] at hc
  exact hafter c hc

/-- **In a query or a fragment** nothing is a segment. -/
theorem IsBase.astray_of_mark (h : IsBase scheme a base lead place after pad)
    (hmark : ∃ c ∈ after, endsPath c = true) (hpath : UrlPath.IsPlainPath path segs)
    (he : read (joinPath base path) = .ok e) : Astray e (ofServer scheme a after) segs := by
  obtain ⟨mark, hin, hends⟩ := hmark
  have hne : after ≠ [] := List.ne_nil_of_mem hin
  -- Whatever follows, the path ends where it did.
  have hsame : ∀ front more, after ++ pad = front ++ more → mark ∈ front →
      ∀ {cs rest}, strip cs = lead ++ (place ++ (front ++ rest)) → read cs = .ok e →
        Astray e (ofServer scheme a after) segs := by
    intro front more hfront hmark cs rest hcs hread
    have hfollows : FollowsPlace front := by
      intro c hc
      refine h.follows c ?_
      have hfrontNe : front ≠ [] := List.ne_nil_of_mem hmark
      rwa [← List.head?_append_of_ne_nil front hfrontNe, ← hfront,
        List.head?_append_of_ne_nil after hne] at hc
    obtain ⟨a', -, rfl⟩ := h.eq_ofServer h.isPlace
      (followsPlace_append (List.ne_nil_of_mem hmark) hfollows rest) hcs hread
    have htext : pathText (front ++ rest) = pathText after := by
      rw [pathText_append ⟨mark, hmark, hends⟩, ← pathText_append ⟨mark, hmark, hends⟩ more,
        ← hfront, pathText_append ⟨mark, hin, hends⟩]
    refine ⟨rfl, fun hbare => hpath.ne_nil ?_⟩
    change UrlPath.bare (UrlPath.resolve .server (pathText (front ++ rest))) =
      UrlPath.bare (UrlPath.resolve .server (pathText after)) ++ segs at hbare
    rw [htext] at hbare
    exact List.append_cancel_left (hbare.symm.trans (List.append_nil _).symm)
  rcases hpath.text with rfl | rfl
  · exact hsame (after ++ pad) [] (List.append_nil _).symm (List.mem_append_left _ hin)
      (h.strip_append_joinWith hpath.ne_nil hpath.plain) he
  · obtain ⟨before, k, hbefore, hafter⟩ := h.exists_before
    refine hsame before _ hafter ?_ (h.strip_append_slash hbefore hpath.plain) he
    have hmark : mark ∈ before ++ List.replicate k '/' := hafter ▸ List.mem_append_left pad hin
    refine (List.mem_append.mp hmark).resolve_right fun hslash => ?_
    rw [List.eq_of_mem_replicate hslash] at hends
    cases hends

/-- A URL without a path has no segments. -/
theorem bare_segments_nil : UrlPath.bare (ofServer scheme a []).segments = [] := rfl

/-- A blank ends no place. -/
theorem endsAuthority_of_isPadding {c : Char} (hc : isPadding c = true) :
    endsAuthority .server c = false :=
  Text.of_isPadding (p := fun c => endsAuthority .server c = false) (by decide) hc

/-- A plain character ends no place. -/
theorem endsAuthority_of_isPlainChar {c : Char} (hc : UrlPath.isPlainChar c = true) :
    endsAuthority .server c = false :=
  (Bool.not_eq_true' _).mp
    (UrlPath.of_isPlainChar (p := fun c => !endsAuthority .server c) (by decide) hc)

/-- Places that go on with what ends none are places. -/
theorem IsPlace.append (hplace : IsPlace place) {more : List Char}
    (hmore : ∀ c ∈ more, endsAuthority .server c = false) : IsPlace (place ++ more) :=
  ⟨List.append_ne_nil_of_left_ne_nil hplace.ne_nil _,
    List.forall_mem_append.mpr ⟨hplace.not_end, hmore⟩⟩

/-- **Right behind a place** the first plain segment is a part of it. -/
theorem IsBase.astray_of_place (h : IsBase scheme a base lead place [] pad)
    (hne : segs ≠ []) (hsegs : ∀ seg ∈ segs, UrlPath.IsPlain seg)
    (he : read (joinPath base (Text.joinWith ['/'] segs)) = .ok e) :
    Astray e (ofServer scheme a []) segs := by
  have hstrip := h.strip_append_joinWith hne hsegs
  cases segs with
  | nil => exact absurd rfl hne
  | cons first segs =>
    obtain ⟨hfirst, hsegs⟩ := List.forall_mem_cons.mp hsegs
    have hplace : IsPlace (place ++ (pad ++ first)) := by
      refine h.isPlace.append (List.forall_mem_append.mpr ⟨fun c hc => ?_, fun c hc => ?_⟩)
      · exact endsAuthority_of_isPadding (h.pad_blank c hc)
      · exact endsAuthority_of_isPlainChar (hfirst.chars c hc)
    rw [Astray, bare_segments_nil, List.nil_append]
    cases segs with
    | nil =>
      rw [Text.joinWith_singleton] at he hstrip
      have hstrip' : strip (joinPath base first) = lead ++ (place ++ (pad ++ first) ++ []) := by
        rw [hstrip, List.append_nil, List.nil_append]
      obtain ⟨a', -, rfl⟩ := h.eq_ofServer hplace followsPlace_nil hstrip' he
      rw [bare_segments_nil]
      exact ⟨rfl, (List.cons_ne_nil first []).symm⟩
    | cons next segs =>
      have hstart : UrlPath.StartsAtSlash [] := by
        rintro c ⟨⟩
      have hstrip' : strip (joinPath base (Text.joinWith ['/'] (first :: next :: segs))) = lead ++
          (place ++ (pad ++ first) ++ ([] ++ '/' :: Text.joinWith ['/'] (next :: segs))) := by
        rw [hstrip, Text.joinWith_cons_cons]
        simp only [List.append_assoc, List.nil_append, List.singleton_append]
      obtain ⟨a', -, rfl⟩ :=
        h.eq_ofServer hplace (followsPlace_append_slash hstart rfl _) hstrip' he
      refine ⟨rfl, ?_⟩
      rw [segments, path_ofServer_joinWith hstart (fun c hc => absurd hc List.not_mem_nil) rfl
        (List.cons_ne_nil next segs) hsegs]
      change UrlPath.bare ([] ++ next :: segs) ≠ _
      rw [UrlPath.bare_append_of_isPlain (List.cons_ne_nil next segs) hsegs]
      -- The first segment is in the host now, so that the path is too short.
      intro hsame
      have hlength := congrArg List.length hsame
      simp at hlength

/-- The bare segments of what follows a place, if it is a path. -/
theorem bare_segments_ofServer (hstarts : UrlPath.StartsAtSlash after)
    (hmarks : ∀ c ∈ after, endsPath c = false) :
    UrlPath.bare (ofServer scheme a after).segments = UrlPath.bare (UrlPath.walked after) := by
  have hslashes := UrlPath.bare_resolve_append_slashes hstarts 0
  rw [List.replicate_zero, List.append_nil] at hslashes
  change UrlPath.bare (UrlPath.resolve .server (pathText after)) = _
  rw [pathText_eq_self hmarks, hslashes]

/-- Blanks end no path. -/
theorem endsPath_of_isPadding {c : Char} (hc : isPadding c = true) : endsPath c = false :=
  Text.of_isPadding (p := fun c => endsPath c = false) (by decide) hc

/-- **Without a slash before it** the first plain segment goes on with a step of the base. -/
theorem IsBase.astray_of_no_slash (h : IsBase scheme a base lead place after pad)
    (hmarks : ∀ c ∈ after, endsPath c = false)
    (hlast : ∀ c, (kept base).getLast? = some c → SchemeKind.server.isSlash c = false)
    (hne : segs ≠ []) (hsegs : ∀ seg ∈ segs, UrlPath.IsPlain seg)
    (he : read (joinPath base (Text.joinWith ['/'] segs)) = .ok e) :
    Astray e (ofServer scheme a after) segs := by
  cases after with
  | nil => exact h.astray_of_place hne hsegs he
  | cons slash text =>
    have hstarts := startsAtSlash_of_followsPlace h.follows hmarks
    have hpad : ∀ c ∈ pad, SchemeKind.server.isSlash c = false :=
      fun c hc => UrlPath.isSlash_of_isPadding (h.pad_blank c hc)
    have hfollows : FollowsPlace (slash :: text ++ pad ++ Text.joinWith ['/'] segs) := by
      rw [List.append_assoc]
      exact followsPlace_append (List.cons_ne_nil slash text) h.follows _
    obtain ⟨a', -, rfl⟩ :=
      h.eq_ofServer h.isPlace hfollows (h.strip_append_joinWith hne hsegs) he
    have hall : ∀ c ∈ slash :: text ++ pad ++ Text.joinWith ['/'] segs, endsPath c = false := by
      refine List.forall_mem_append.mpr ⟨List.forall_mem_append.mpr ⟨hmarks, ?_⟩, ?_⟩
      · exact fun c hc => endsPath_of_isPadding (h.pad_blank c hc)
      · exact fun c hc => UrlPath.of_mem_joinWith (p := fun c => endsPath c = false)
          (fun _ => endsPath_of_isPlainChar) rfl hsegs hc
    refine ⟨rfl, ?_⟩
    rw [bare_segments_ofServer hstarts hmarks]
    change UrlPath.bare (UrlPath.resolve .server (pathText _)) ≠ _
    rw [pathText_eq_self hall]
    refine UrlPath.bare_resolve_append_ne (hstarts slash rfl) hpad (fun c hc => hlast c ?_)
      hne hsegs
    rw [h.kept_eq, List.getLast?_append_of_ne_nil _ (by simp),
      List.getLast?_append_of_ne_nil _ (by simp)]
    exact hc

/-- **A blank before it** keeps a path from where it would be. -/
theorem IsBase.astray_of_blank (h : IsBase scheme a base lead place after pad)
    (hmarks : ∀ c ∈ after, endsPath c = false) (hpad : pad ≠ []) (hne : segs ≠ [])
    (hsegs : ∀ seg ∈ segs, UrlPath.IsPlain seg)
    (he : read (joinPath base ('/' :: Text.joinWith ['/'] segs)) = .ok e) :
    Astray e (ofServer scheme a after) segs := by
  obtain ⟨before, k, hbefore, hafter⟩ := h.exists_before
  obtain ⟨front, c, hblank⟩ := (List.eq_nil_or_concat' pad).resolve_left hpad
  have hc : Url.isPadding c = true := h.pad_blank c (hblank ▸ List.mem_concat_self)
  -- A base that ends in a blank does not end in a slash.
  have hk : k = 0 := by
    cases k with
    | zero => rfl
    | succ k =>
      rw [hblank, List.replicate_succ', ← List.append_assoc, ← List.append_assoc] at hafter
      have hslash := List.singleton_inj.mp (List.append_inj' hafter rfl).2
      rw [hslash] at hc
      cases hc
  rw [hk, List.replicate_zero, List.append_nil] at hafter
  have hstrip := h.strip_append_slash hbefore hsegs
  rw [← hafter] at hstrip
  have hall : ∀ c ∈ after ++ pad, endsPath c = false :=
    List.forall_mem_append.mpr ⟨hmarks, fun c hc => endsPath_of_isPadding (h.pad_blank c hc)⟩
  cases after with
  | nil =>
    -- The blank is at the end of the place.
    have hplace : IsPlace (place ++ front ++ [c]) := by
      rw [List.append_assoc, ← hblank]
      exact h.isPlace.append fun d hd => endsAuthority_of_isPadding (h.pad_blank d hd)
    have hstrip' : strip (joinPath base ('/' :: Text.joinWith ['/'] segs)) =
        lead ++ (place ++ front ++ [c] ++ ([] ++ '/' :: Text.joinWith ['/'] segs)) := by
      rw [hstrip, hblank]
      simp only [List.append_assoc, List.nil_append]
    have hstart : UrlPath.StartsAtSlash [] := by
      rintro d ⟨⟩
    obtain ⟨a', ha', -⟩ := h.eq_ofServer hplace (followsPlace_append_slash hstart rfl _) hstrip' he
    exact absurd ha' (authorityOf_concat_ne_ok h.server hplace hc)
  | cons slash text =>
    have hstarts := startsAtSlash_of_followsPlace h.follows hmarks
    have hstarts' : UrlPath.StartsAtSlash (slash :: text ++ pad) := fun d hd => hstarts d hd
    obtain ⟨a', -, rfl⟩ :=
      h.eq_ofServer h.isPlace (followsPlace_append_slash hstarts' rfl _) hstrip he
    refine ⟨rfl, ?_⟩
    rw [bare_segments_ofServer hstarts hmarks, segments,
      path_ofServer_joinWith hstarts' hall rfl hne hsegs]
    change UrlPath.bare (UrlPath.walked (slash :: text ++ pad) ++ segs) ≠ _
    rw [UrlPath.bare_append_of_isPlain hne hsegs]
    exact fun hsame =>
      UrlPath.walked_append_ne hpad h.pad_blank (List.append_cancel_right hsame)

/-! ## Both ways -/

/-- Blanks at the end of a base are those that do not count of it. -/
theorem IsBase.pad_eq_nil_iff (h : IsBase scheme a base lead place after pad) :
    pad = [] ↔ ∀ c, (kept base).getLast? = some c → isPadding c = false := by
  rw [h.pad_eq, List.rtakeWhile_eq_nil_iff]
  constructor
  · intro hlast c hc
    obtain ⟨front, hkept⟩ := List.getLast?_eq_some_iff.mp hc
    have hend := hlast (by simp [hkept])
    simpa [hkept] using hend
  · intro hlast hne
    simp [hlast _ (List.getLast?_eq_some_getLast hne)]

/-- The bare segments of a base that meets a path at a slash. -/
theorem Meets.bare_segments {slash : Char}
    (hmeets : Meets lead place before slash base path after segs)
    (hmarks : ∀ c ∈ after, endsPath c = false) :
    UrlPath.bare (ofServer scheme a after).segments = UrlPath.bare (UrlPath.walked before) := by
  change UrlPath.bare (UrlPath.resolve .server (pathText after)) = _
  rw [pathText_eq_self hmarks, hmeets.bare]

/-- **A plain path is found behind a base** if the two meet at a single slash. -/
theorem exists_staysAt_of_seam (hread : read base = .ok b) (hkind : b.kind = .server)
    (hpath : UrlPath.IsPlainPath path segs) (hseam : Seam base path b) :
    ∃ e, read (joinPath base path) = .ok e ∧ e.scheme = b.scheme ∧ e.StaysAt b segs := by
  obtain ⟨a, lead, place, after, pad, h, hb⟩ := exists_isBase hread hkind
  obtain rfl := h.pad_eq_nil_iff.mpr hseam.no_blank
  have hmarks : ∀ c ∈ after, endsPath c = false := by
    have hnone := And.intro hseam.no_query hseam.no_fragment
    rw [hb] at hnone
    exact query_fragment_eq_none_iff.mp hnone
  obtain ⟨before, slash, hmeets⟩ := h.exists_meets hmarks hpath hseam.slash
  obtain ⟨e, he, hscheme, hauthority, hsegments⟩ := h.exists_joined hmeets hpath
  obtain ⟨d, hd, hseat⟩ := h.exists_seat hmeets
  have hbare : UrlPath.bare (UrlPath.walked before) = UrlPath.walked before :=
    bare_eq_self_iff.mpr (hseat ▸ hseam.single d hd)
  have hb' : b.authority = some a := by rw [hb]; rfl
  refine ⟨e, he, hscheme, by rw [hauthority, hb'], by rw [hauthority, hb'], ?_⟩
  rw [hb, hmeets.bare_segments hmarks, hbare, hsegments]

/-- Where a slash is between a base and a path, an empty segment is all that can be wrong. -/
theorem IsBase.single_of_meets (h : IsBase scheme a base lead place after pad) {slash : Char}
    (hmeets : Meets lead place before slash base path after segs)
    (hmarks : ∀ c ∈ after, endsPath c = false) (hpath : UrlPath.IsPlainPath path segs)
    (he : read (joinPath base path) = .ok e) :
    e.scheme = scheme ∧
      (UrlPath.bare e.segments = UrlPath.bare (ofServer scheme a after).segments ++ segs →
        ∀ d, read (seat base path) = .ok d → ¬ [[], []] <:+ d.segments) := by
  obtain ⟨e', he', hscheme, -, hsegments⟩ := h.exists_joined hmeets hpath
  obtain rfl := Except.ok.inj (he.symm.trans he')
  refine ⟨hscheme, fun hbare d hd => ?_⟩
  obtain ⟨d', hd', hseat⟩ := h.exists_seat hmeets
  obtain rfl := Except.ok.inj (hd.symm.trans hd')
  rw [hseat, ← bare_eq_self_iff]
  rw [hmeets.bare_segments hmarks, segments, hsegments] at hbare
  change UrlPath.bare (UrlPath.walked before ++ segs) = _ at hbare
  rw [UrlPath.bare_append_of_isPlain hpath.ne_nil hpath.plain] at hbare
  exact (List.append_cancel_right hbare).symm

/-- **It is found nowhere else**: if what is read has the segments of the base with those of the
path, the two meet at a single slash. -/
theorem seam_of_read (hread : read base = .ok b) (hkind : b.kind = .server)
    (hpath : UrlPath.IsPlainPath path segs) (he : read (joinPath base path) = .ok e) :
    e.scheme = b.scheme ∧
      (UrlPath.bare e.segments = UrlPath.bare b.segments ++ segs → Seam base path b) := by
  obtain ⟨a, lead, place, after, pad, h, hb⟩ := exists_isBase hread hkind
  have hastray (hastray : Astray e (ofServer b.scheme a after) segs) : e.scheme = b.scheme ∧
      (UrlPath.bare e.segments = UrlPath.bare b.segments ++ segs → Seam base path b) := by
    rw [← hb] at hastray
    exact ⟨hastray.1, fun hbare => absurd hbare hastray.2⟩
  by_cases hmarks : ∀ c ∈ after, endsPath c = false
  · have hnone : (ofServer b.scheme a after).query = none ∧
        (ofServer b.scheme a after).fragment = none :=
      query_fragment_eq_none_iff.mpr hmarks
    rw [← hb] at hnone
    have hmeet (hpad : pad = []) (hslash : path.head? = some '/' ∨
        ∃ c, (kept base).getLast? = some c ∧ SchemeKind.server.isSlash c = true) :
        e.scheme = b.scheme ∧
          (UrlPath.bare e.segments = UrlPath.bare b.segments ++ segs → Seam base path b) := by
      have hblank := h.pad_eq_nil_iff.mp hpad
      subst hpad
      obtain ⟨before, slash, hmeets⟩ := h.exists_meets hmarks hpath hslash
      obtain ⟨hscheme, hsingle⟩ := h.single_of_meets hmeets hmarks hpath he
      rw [← hb] at hsingle
      exact ⟨hscheme, fun hbare => ⟨hnone.1, hnone.2, hblank, hslash, hsingle hbare⟩⟩
    rcases hpath.text with rfl | rfl
    · by_cases hslash : ∃ c, (kept base).getLast? = some c ∧ SchemeKind.server.isSlash c = true
      · refine hmeet (h.pad_eq_nil_iff.mpr fun c hc => ?_) (Or.inr hslash)
        -- The slash is the last character, and no blank.
        obtain ⟨d, hd, hisSlash⟩ := hslash
        obtain rfl := Option.some.inj (hc.symm.trans hd)
        by_contra hblank
        rw [UrlPath.isSlash_of_isPadding (Bool.not_eq_false _ ▸ hblank)] at hisSlash
        cases hisSlash
      · refine hastray (h.astray_of_no_slash hmarks (fun c hc => ?_) hpath.ne_nil hpath.plain he)
        exact Bool.eq_false_iff.mpr fun hisSlash => hslash ⟨c, hc, hisSlash⟩
    · by_cases hpad : pad = []
      · exact hmeet hpad (Or.inl rfl)
      · exact hastray (h.astray_of_blank hmarks hpad hpath.ne_nil hpath.plain he)
  · obtain ⟨mark, hmark⟩ := not_forall.mp hmarks
    obtain ⟨hin, hends⟩ := Classical.not_imp.mp hmark
    exact hastray (h.astray_of_mark ⟨mark, hin, (Bool.not_eq_false _).mp hends⟩ hpath he)

/-- The segments of a URL that stays at another one, with plain segments behind. -/
theorem StaysAt.bare_segments (h : e.StaysAt b segs) (hpath : UrlPath.IsPlainPath path segs) :
    UrlPath.bare e.segments = UrlPath.bare b.segments ++ segs := by
  rw [segments, h.path]
  exact UrlPath.bare_append_of_isPlain hpath.ne_nil hpath.plain _

/-- **A plain path is found behind a base exactly if the two meet at a single slash.** -/
theorem exists_staysAt_iff_seam (hread : read base = .ok b) (hkind : b.kind = .server)
    (hpath : UrlPath.IsPlainPath path segs) :
    (∃ e, read (joinPath base path) = .ok e ∧ e.StaysAt b segs) ↔ Seam base path b := by
  constructor
  · rintro ⟨e, he, hstays⟩
    exact (seam_of_read hread hkind hpath he).2 (hstays.bare_segments hpath)
  · intro hseam
    obtain ⟨e, he, -, hstays⟩ := exists_staysAt_of_seam hread hkind hpath hseam
    exact ⟨e, he, hstays⟩

end CatalogSearch.Url
