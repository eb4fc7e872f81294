import CatalogSearch.Proofs.Attempt
import CatalogSearch.Proofs.Text.Pieces
import CatalogSearch.Url.Read
import Mathlib.Data.List.DropRight

/-! # URLs of servers

The text of a URL of a server has three parts: what leads to the place of the server, the place
itself, and what follows it. Each of them makes its own part of the URL, whatever the others are.

* **`Url.kept`**: what counts of a text, blanks at its end included;
* **`Url.Leads`**, **`Url.IsPlace`**, **`Url.FollowsPlace`**: the three parts;
* **`Url.authorityOf`**, **`Url.ofServer`**: what is made of a place, and of what follows it;
* **`Url.read_of_parts`**: the URL of a text of these parts;
* **`Url.exists_parts_of_read`**: every URL of a server is read from such a text. -/

namespace CatalogSearch.Url

/-! ## What counts of a text -/

/-- **What counts of a text**, blanks and controls at its end included. -/
def kept (cs : List Char) : List Char := (cs.dropWhile isPadding).filter (!UrlPath.isDropped ·)

/-- What is dropped everywhere does not count at the ends. -/
theorem isPadding_of_isDropped {c : Char} (h : UrlPath.isDropped c = true) :
    isPadding c = true := by
  simp only [UrlPath.isDropped, Bool.or_eq_true, beq_iff_eq] at h
  rcases h with (rfl | rfl) | rfl <;> rfl

/-- It makes no difference whether the end of a text is cut off before or after what is dropped. -/
theorem filter_rdropWhile (cs : List Char) :
    (cs.rdropWhile isPadding).filter (!UrlPath.isDropped ·) =
      (cs.filter (!UrlPath.isDropped ·)).rdropWhile isPadding := by
  induction cs using List.reverseRecOn with
  | nil => rfl
  | append_singleton cs c ih =>
    rw [List.filter_append]
    by_cases hc : isPadding c = true
    · rw [List.rdropWhile_concat_pos _ _ _ hc, ih]
      by_cases hdropped : UrlPath.isDropped c = true
      · simp [hdropped]
      · simp [hdropped, List.rdropWhile_concat_pos _ _ _ hc]
    · have hdropped : ¬ UrlPath.isDropped c = true := fun h => hc (isPadding_of_isDropped h)
      rw [List.rdropWhile_concat_neg _ _ _ hc, List.filter_append]
      simp [hdropped, List.rdropWhile_concat_neg _ _ _ hc]

/-- A text that is stripped is what counts of it, without its end. -/
theorem strip_eq_rdropWhile (cs : List Char) : strip cs = (kept cs).rdropWhile isPadding :=
  filter_rdropWhile _

/-- What counts of a text that goes on. -/
theorem kept_append {cs : List Char} (h : ∃ c ∈ cs, isPadding c = false) (more : List Char) :
    kept (cs ++ more) = kept cs ++ more.filter (!UrlPath.isDropped ·) := by
  obtain ⟨c, hc, hpadding⟩ := h
  have hne : cs.dropWhile isPadding ≠ [] := by
    intro hnil
    rw [List.dropWhile_eq_nil_iff.mp hnil c hc] at hpadding
    cases hpadding
  rw [kept, List.dropWhile_append, if_neg (by simpa using hne), List.filter_append]
  rfl

/-- A text that goes on with what counts is stripped at its start only. -/
theorem strip_append {cs more : List Char} (h : ∃ c ∈ cs, isPadding c = false) (hne : more ≠ [])
    (hmore : ∀ c ∈ more, isPadding c = false) : strip (cs ++ more) = kept cs ++ more := by
  have hkept : more.filter (!UrlPath.isDropped ·) = more := by
    refine List.filter_eq_self.mpr fun c hc => ?_
    rw [Bool.not_eq_true', ← Bool.not_eq_true]
    intro hdropped
    cases (isPadding_of_isDropped hdropped).symm.trans (hmore c hc)
  rw [strip_eq_rdropWhile, kept_append h, hkept]
  obtain ⟨front, c, rfl⟩ := (List.eq_nil_or_concat' more).resolve_left hne
  rw [← List.append_assoc]
  refine List.rdropWhile_concat_neg _ _ _ ?_
  simp [hmore c List.mem_concat_self]

/-! ## The three parts -/

/-- **What leads to the place of a server**: a scheme, its colon, and slashes. -/
inductive Leads (scheme : String) : List Char → Prop where
  | intro {name slashes : List Char} (hname : ∀ c ∈ name, isSchemeChar c = true)
    (hfirst : (name.head?.map Char.isAlpha).getD false = true)
    (hscheme : scheme = String.ofList (Text.lower name))
    (hslashes : ∀ c ∈ slashes, SchemeKind.server.isSlash c = true) :
    Leads scheme (name ++ ':' :: slashes)

/-- **The text of a place**, which ends where the path starts, or the query or the fragment. -/
structure IsPlace (place : List Char) : Prop where
  ne_nil : place ≠ []
  not_end : ∀ c ∈ place, endsAuthority .server c = false

/-- **What follows a place**: nothing, or a path, a query or a fragment. -/
def FollowsPlace (after : List Char) : Prop :=
  ∀ c, after.head? = some c → endsAuthority .server c = true

/-- **What is made of a place.** -/
def authorityOf (scheme : String) (place : List Char) : Except UrlFault Authority :=
  (readAuthority scheme place).map Prod.fst

/-- The text of the path in what follows a place. -/
def pathText (after : List Char) : List Char := (splitMark '?' (splitMark '#' after).1).1

/-- **The URL of a server**, made of what follows its place. -/
def ofServer (scheme : String) (a : Authority) (after : List Char) : Url where
  scheme := scheme
  authority := some a
  path := .segments (UrlPath.resolve .server (pathText after))
  query := (splitMark '?' (splitMark '#' after).1).2.map (Text.percentEncode (keepsInQuery .server))
  fragment := (splitMark '#' after).2.map (Text.percentEncode keepsInFragment)

/-! ## Places -/

variable {scheme : String} {lead place after : List Char}

/-- The text of the host of a place. -/
def placeHost (place : List Char) : List Char := (splitHost false (splitUser place).2).1

/-- The text of the port of a place, with its colon. -/
def placePort (place : List Char) : List Char := (splitHost false (splitUser place).2).2

/-- Host and port are what is read of a text. -/
theorem splitHost_append (inside : Bool) (cs : List Char) :
    (splitHost inside cs).1 ++ (splitHost inside cs).2 = cs := by
  induction cs generalizing inside with
  | nil => rfl
  | cons c cs ih =>
    rw [splitHost]
    split
    · rfl
    · exact congrArg (c :: ·) (ih _)

/-- A port starts with a colon. -/
theorem head?_splitHost_snd (inside : Bool) (cs : List Char) :
    (splitHost inside cs).2 = [] ∨ ∃ digits, (splitHost inside cs).2 = ':' :: digits := by
  induction cs generalizing inside with
  | nil => exact Or.inl rfl
  | cons c cs ih =>
    rw [splitHost]
    split
    · next hcolon =>
      rw [Bool.and_eq_true, beq_iff_eq] at hcolon
      exact Or.inr ⟨cs, by rw [hcolon.1]⟩
    · exact ih _

/-- What stands behind a user is the end of a place. -/
theorem splitUser_suffix (place : List Char) : (splitUser place).2 <:+ place := by
  rw [splitUser]
  split
  · exact List.rtakeWhile_suffix _ place
  · exact List.suffix_refl place

/-- The port is the end of a place. -/
theorem placePort_suffix (place : List Char) : placePort place <:+ place := by
  have hport : placePort place <:+ (splitUser place).2 := ⟨_, splitHost_append false _⟩
  exact hport.trans (splitUser_suffix place)

/-- A place is cut off what follows it. -/
theorem cut_place (hplace : IsPlace place) (hafter : FollowsPlace after) :
    (place ++ after).takeWhile (!endsAuthority .server ·) = place ∧
      (place ++ after).dropWhile (!endsAuthority .server ·) = after := by
  have hin : ∀ c ∈ place, (!endsAuthority .server c) = true :=
    fun c hc => (Bool.not_eq_true' _).mpr (hplace.not_end c hc)
  cases after with
  | nil =>
    rw [List.append_nil]
    exact ⟨List.takeWhile_eq_self_iff.mpr hin, List.dropWhile_eq_nil_iff.mpr hin⟩
  | cons c after =>
    have hend : (!endsAuthority .server c) = false := by rw [hafter c rfl]; rfl
    exact Text.takeWhile_dropWhile_append_cons hin hend after

/-- **How a place is read**, whatever follows it. -/
theorem readAuthority_eq (hkind : SchemeKind.ofScheme scheme = .server) (hplace : IsPlace place)
    (hafter : FollowsPlace after) :
    readAuthority scheme (place ++ after) =
      if (placeHost place).isEmpty then .error .emptyHost
      else (do
        let host ← Host.read (placeHost place)
        let (port, rest) ← readPort scheme (placePort place ++ after)
        .ok (⟨((splitUser place).1.map userText).getD [], host, port⟩, rest)) := by
  obtain ⟨htake, hdrop⟩ := cut_place hplace hafter
  simp only [readAuthority, hkind, htake, hdrop, placeHost, placePort]
  simp

/-- A port ends where a place does. -/
theorem endsPort_eq (c : Char) : endsPort c = endsAuthority .server c := by
  have hbackslash : (SchemeKind.server != .other) = true := rfl
  simp [endsPort, endsAuthority, SchemeKind.isSlash, hbackslash]

/-- Nothing that ends a place is a digit or a colon. -/
theorem not_digit_of_endsAuthority {c : Char} (h : endsAuthority .server c = true) :
    (Text.digitValue? c).isSome = false ∧ c ≠ ':' := by
  rw [← endsPort_eq] at h
  simp only [endsPort, Bool.or_eq_true, beq_iff_eq] at h
  rcases h with ((rfl | rfl) | rfl) | rfl <;> decide

/-- A port with anything but digits is none. -/
theorem readPort_eq_error {digits rest : List Char} {c : Char}
    (hdrop : digits.dropWhile (fun c => (Text.digitValue? c).isSome) = c :: rest)
    (hc : endsAuthority .server c = false) : readPort scheme (':' :: digits) = .error .port := by
  rw [readPort]
  simp [hdrop, endsPort_eq, hc]

/-- Nothing at all may follow a place. -/
theorem followsPlace_nil : FollowsPlace [] := by
  rintro c ⟨⟩

/-- A port of digits is a number. -/
theorem readPort_digits {digits : List Char}
    (hdigits : ∀ c ∈ digits, (Text.digitValue? c).isSome = true) (hafter : FollowsPlace after) :
    readPort scheme (':' :: (digits ++ after)) =
      if (Text.readNat? digits).any (UInt16.size ≤ ·) then .error .port
      else .ok ((Text.readNat? digits).filter (SchemeKind.usualPort? scheme != some ·), after) := by
  have hcut : (digits ++ after).takeWhile (fun c => (Text.digitValue? c).isSome) = digits ∧
      (digits ++ after).dropWhile (fun c => (Text.digitValue? c).isSome) = after := by
    cases after with
    | nil =>
      rw [List.append_nil]
      exact ⟨List.takeWhile_eq_self_iff.mpr hdigits, List.dropWhile_eq_nil_iff.mpr hdigits⟩
    | cons c after =>
      exact Text.takeWhile_dropWhile_append_cons hdigits
        (not_digit_of_endsAuthority (hafter c rfl)).1 after
  have hend : after.head?.any (!endsPort ·) = false := by
    cases after with
    | nil => rfl
    | cons c after => simp [endsPort_eq, hafter c rfl]
  simp only [readPort, hcut.1, hcut.2, hend, Bool.or_false]

/-- **A port is read as it stands**, whatever follows it. -/
theorem readPort_append {port : List Char} (hport : port = [] ∨ ∃ digits, port = ':' :: digits)
    (hin : ∀ c ∈ port, endsAuthority .server c = false) (hafter : FollowsPlace after) :
    readPort scheme (port ++ after) = (readPort scheme port).map fun found => (found.1, after) := by
  rcases hport with rfl | ⟨digits, rfl⟩
  · rw [List.nil_append]
    cases after with
    | nil => rfl
    | cons c after =>
      have hcolon := (not_digit_of_endsAuthority (hafter c rfl)).2
      unfold readPort
      split
      · next heq => exact absurd (List.cons.inj heq).1 hcolon
      · rfl
  · rw [List.cons_append]
    cases hdrop : digits.dropWhile (fun c => (Text.digitValue? c).isSome) with
    | cons c rest =>
      -- What is no digit ends neither of the two.
      have hc : endsAuthority .server c = false := by
        refine hin c (List.mem_cons_of_mem _ ?_)
        exact (List.dropWhile_suffix _).subset (hdrop ▸ List.mem_cons_self)
      have hdrop' : (digits ++ after).dropWhile (fun c => (Text.digitValue? c).isSome) =
          c :: (rest ++ after) := by
        rw [List.dropWhile_append, hdrop]
        rfl
      rw [readPort_eq_error hdrop hc]
      exact readPort_eq_error hdrop' hc
    | nil =>
      have hdigits := List.dropWhile_eq_nil_iff.mp hdrop
      have halone := @readPort_digits scheme [] digits hdigits followsPlace_nil
      rw [List.append_nil] at halone
      rw [readPort_digits hdigits hafter, halone]
      split <;> rfl

/-- **A place makes the same authority**, whatever follows it. -/
theorem readAuthority_append (hkind : SchemeKind.ofScheme scheme = .server)
    (hplace : IsPlace place) (hafter : FollowsPlace after) :
    readAuthority scheme (place ++ after) =
      (authorityOf scheme place).map fun a => (a, after) := by
  have halone := readAuthority_eq hkind hplace followsPlace_nil
  have hport : readPort scheme (placePort place ++ after) =
      (readPort scheme (placePort place)).map fun found => (found.1, after) :=
    readPort_append (head?_splitHost_snd false (splitUser place).2)
      (fun c hc => hplace.not_end c ((placePort_suffix place).subset hc)) hafter
  rw [List.append_nil, List.append_nil] at halone
  rw [authorityOf, readAuthority_eq hkind hplace hafter, halone, hport]
  by_cases hhost : (placeHost place).isEmpty = true
  · rw [if_pos hhost, if_pos hhost]
    rfl
  · rw [if_neg hhost, if_neg hhost]
    cases Host.read (placeHost place) with
    | error fault => rfl
    | ok host =>
      cases readPort scheme (placePort place) with
      | error fault => rfl
      | ok found => rfl

/-! ## Whole texts -/

/-- The scheme that leads to a place is scanned. -/
theorem scanScheme?_append {name rest : List Char} (hname : ∀ c ∈ name, isSchemeChar c = true)
    (hfirst : (name.head?.map Char.isAlpha).getD false = true) :
    scanScheme? (name ++ ':' :: rest) = some (String.ofList (Text.lower name), rest) := by
  obtain ⟨htake, hdrop⟩ :=
    Text.takeWhile_dropWhile_append_cons hname (show isSchemeChar ':' = false by decide) rest
  simp only [scanScheme?, htake, hdrop, hfirst, if_true]

/-- A scheme that is scanned stands in front of a colon. -/
theorem exists_name_of_scanScheme? {cs rest : List Char}
    (h : scanScheme? cs = some (scheme, rest)) :
    ∃ name, cs = name ++ ':' :: rest ∧ (∀ c ∈ name, isSchemeChar c = true) ∧
      (name.head?.map Char.isAlpha).getD false = true ∧
        scheme = String.ofList (Text.lower name) := by
  unfold scanScheme? at h
  split at h
  · next rest' hdrop =>
    obtain ⟨-, hname, hcs⟩ := Text.cut_of_dropWhile_eq_cons hdrop
    dsimp only at h
    split at h
    · next hfirst =>
      cases h
      exact ⟨_, hcs, hname, hfirst, rfl⟩
    · cases h
  · cases h

/-- Slashes are passed over on the way to a place. -/
theorem readPlace_append {slashes : List Char} (hkind : SchemeKind.ofScheme scheme = .server)
    (hslashes : ∀ c ∈ slashes, SchemeKind.server.isSlash c = true) (hplace : IsPlace place)
    (hafter : FollowsPlace after) :
    readPlace scheme (slashes ++ (place ++ after)) =
      (authorityOf scheme place).map fun a => (some a, after) := by
  have hstop : (place ++ after).dropWhile SchemeKind.server.isSlash = place ++ after := by
    cases place with
    | nil => exact absurd rfl hplace.ne_nil
    | cons c place =>
      have hc := hplace.not_end c List.mem_cons_self
      rw [endsAuthority, Bool.or_eq_false_iff, Bool.or_eq_false_iff] at hc
      exact List.dropWhile_cons_of_neg (by simp [hc.1.1])
  rw [readPlace, hkind]
  dsimp only
  rw [List.dropWhile_append_of_pos hslashes, hstop, readAuthority_append hkind hplace hafter]
  cases authorityOf scheme place with
  | error fault => rfl
  | ok a => rfl

/-- **The URL of a server** is made of the parts of its text. -/
theorem read_of_parts {cs : List Char} (hkind : SchemeKind.ofScheme scheme = .server)
    (hlead : Leads scheme lead) (hplace : IsPlace place) (hafter : FollowsPlace after)
    (hcs : strip cs = lead ++ (place ++ after)) :
    read cs = (authorityOf scheme place).map fun a => ofServer scheme a after := by
  obtain ⟨hname, hfirst, hscheme, hslashes⟩ := hlead
  rw [read, hcs, List.append_assoc, List.cons_append, scanScheme?_append hname hfirst, ← hscheme]
  dsimp only
  rw [readPlace_append hkind hslashes hplace hafter, hkind]
  cases authorityOf scheme place with
  | error fault => rfl
  | ok a => rfl

/-- Without the text of a place there is no server. -/
theorem ne_nil_of_readAuthority {cs : List Char} {found : Authority × List Char}
    (hkind : SchemeKind.ofScheme scheme = .server) (h : readAuthority scheme cs = .ok found) :
    cs.takeWhile (!endsAuthority .server ·) ≠ [] := by
  intro hnil
  rw [readAuthority, hkind] at h
  simp only [hnil] at h
  cases h

/-- **Every URL of a server** is read from a text of these parts. -/
theorem exists_parts_of_read {cs : List Char} {u : Url} (h : read cs = .ok u)
    (hkind : u.kind = .server) :
    ∃ lead place after, Leads u.scheme lead ∧ IsPlace place ∧ FollowsPlace after ∧
      strip cs = lead ++ (place ++ after) := by
  unfold read at h
  cases hscan : scanScheme? (strip cs) with
  | none =>
    rw [hscan] at h
    cases h
  | some found =>
    obtain ⟨scheme, rest⟩ := found
    rw [hscan] at h
    obtain ⟨⟨authority, after⟩, hplace, h⟩ := bind_eq_ok_iff.mp h
    dsimp only at h hplace
    have hscheme : u.scheme = scheme := by
      split at h
      · cases h
        rfl
      · cases h
        rfl
    subst hscheme
    have hserver : SchemeKind.ofScheme u.scheme = .server := hkind
    obtain ⟨name, hcs, hname, hfirst, hscheme⟩ := exists_name_of_scanScheme? hscan
    rw [readPlace, hserver] at hplace
    obtain ⟨found, hfound, -⟩ := map_eq_ok_iff.mp hplace
    -- The place starts behind the slashes, and ends where the path starts.
    refine ⟨name ++ ':' :: rest.takeWhile SchemeKind.server.isSlash,
      (rest.dropWhile SchemeKind.server.isSlash).takeWhile (!endsAuthority .server ·),
      (rest.dropWhile SchemeKind.server.isSlash).dropWhile (!endsAuthority .server ·),
      .intro hname hfirst hscheme fun c hc => List.mem_takeWhile_imp hc,
      ⟨ne_nil_of_readAuthority hserver hfound,
        fun c hc => by simpa using List.mem_takeWhile_imp hc⟩,
      ?_, ?_⟩
    · intro c hc
      obtain ⟨after, hafter⟩ := List.head?_eq_some_iff.mp hc
      have hend := (Text.cut_of_dropWhile_eq_cons hafter).1
      simpa using hend
    · rw [hcs, List.takeWhile_append_dropWhile, List.append_assoc, List.cons_append,
        List.takeWhile_append_dropWhile]

end CatalogSearch.Url
