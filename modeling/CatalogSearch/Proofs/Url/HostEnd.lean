import CatalogSearch.Proofs.Url.Server

/-! # Hosts end in what counts

Blanks and controls do not count at the end of a text, but at the end of a host they do: there is no
such host, and no such port. It does not matter how a host is written. What stands at its end is not
changed by any step that reads it, and is refused in the end.

* **`Text.normalForm_concat`**: a blank at the end of a text is left alone by the normal form;
* **`Domain.ascii?_concat`**, **`Host.read_concat_ne_ok`**: no name and no host ends in a blank;
* **`Url.authorityOf_concat_ne_ok`**: no place does. -/

namespace CatalogSearch

variable {c : Char} {cs front rest : List Char}

/-- A blank or a control in numbers. -/
theorem Url.toNat_of_isPadding (h : Url.isPadding c = true) : c.toNat ≤ 0x20 := of_decide_eq_true h

namespace Text

/-! ## The normal form -/

/-- What has no class is passed by no mark. -/
theorem putMark_concat (h : combiningClass c = 0) (d : Char) (cs : List Char) :
    putMark d (cs ++ [c]) = putMark d cs ++ [c] := by
  induction cs with
  | nil => simp [putMark, comesAfter, h]
  | cons e cs ih =>
    rw [List.cons_append, putMark, putMark, ih]
    split <;> rfl

/-- What has no class stays at the end. -/
theorem orderMarks_concat (h : combiningClass c = 0) (cs : List Char) :
    orderMarks (cs ++ [c]) = orderMarks cs ++ [c] := by
  induction cs with
  | nil => rfl
  | cons d cs ih =>
    change putMark d (orderMarks (cs ++ [c])) = putMark d (orderMarks cs) ++ [c]
    rw [ih, putMark_concat h]

/-- What comes before all marks joins nothing. -/
theorem composeFrom_concat (h : c.toNat < firstMark) (lead : Char) (marks cs : List Char) :
    composeFrom lead marks (cs ++ [c]) = composeFrom lead marks cs ++ [c] := by
  have hclass := combiningClass_of_lt h
  induction cs generalizing lead marks with
  | nil => simp [composeFrom, join?, h, hclass]
  | cons d cs ih =>
    rw [List.cons_append, composeFrom, composeFrom]
    split
    · exact ih _ _
    · split
      · rw [ih, List.append_assoc]
      · exact ih _ _

/-- What comes before all marks stays at the end. -/
theorem compose_concat (h : c.toNat < firstMark) (cs : List Char) :
    compose (cs ++ [c]) = compose cs ++ [c] := by
  have hclass := combiningClass_of_lt h
  induction cs with
  | nil => simp [compose, composeFrom, hclass]
  | cons d cs ih =>
    rw [List.cons_append, compose, compose, composeFrom_concat h, ih]
    split <;> rfl

/-- **What comes before all marks and composites** is left alone at the end of a text. -/
theorem normalForm_concat (h : c.toNat < firstComposite) (cs : List Char) :
    normalForm (cs ++ [c]) = normalForm cs ++ [c] := by
  have hmark : c.toNat < firstMark := Nat.lt_trans h (by decide)
  have hparts : parts c = [c] := if_pos h
  rw [normalForm, List.flatMap_append, List.flatMap_singleton, hparts,
    orderMarks_concat (combiningClass_of_lt hmark), compose_concat hmark, normalForm]

/-! ## What a text spells -/

/-- The bytes of a text are those that are read as it. -/
theorem Utf8.encode_of_decode {bytes : List UInt8} (h : Utf8.decode bytes = .ok cs) :
    Utf8.encode cs = bytes := by
  rw [Utf8.decode] at h
  cases hread : bytes.toByteArray.utf8Decode? with
  | none =>
    rw [hread] at h
    cases h
  | some found =>
    have hvalid : bytes.toByteArray.IsValidUTF8 :=
      ByteArray.isSome_utf8Decode?_iff.mp (Option.isSome_of_eq_some hread)
    obtain ⟨text, htext⟩ := hvalid
    rw [hread] at h
    rw [htext, List.utf8Decode?_utf8Encode] at hread
    cases hread
    cases h
    exact (List.toByteArray_inj.mp htext).symm

/-- A byte of ASCII at the end of a character is the character. -/
theorem eq_of_concat_eq_utf8EncodeChar {bytes : List UInt8} {d : Char} (hc : c.toNat < 0x80)
    (h : bytes ++ [UInt8.ofNat c.toNat] = String.utf8EncodeChar d) : d = c := by
  have hlast := congrArg List.getLast? h
  rw [List.getLast?_concat, String.utf8EncodeChar] at hlast
  have hbyte (n : Nat) (hn : some (UInt8.ofNat c.toNat) = some (UInt8.ofNat n)) :
      c.toNat = n % 256 := by
    have heq := congrArg UInt8.toNat (Option.some.inj hn)
    rw [UInt8.toNat_ofNat', UInt8.toNat_ofNat'] at heq
    omega
  split at hlast
  · have hd := hbyte _ hlast
    refine Char.ext (UInt32.toNat_inj.mp ?_)
    change d.toNat = c.toNat
    change c.toNat = d.toNat % 256 at hd
    change d.toNat ≤ 127 at *
    omega
  · -- The other bytes of characters that have several are beyond ASCII.
    split at hlast
    · have := hbyte _ hlast
      omega
    · split at hlast
      · have := hbyte _ hlast
        omega
      · have := hbyte _ hlast
        omega

/-- What is no hexadecimal digit spells itself at the end of a text. -/
theorem percentBytes_concat (hhex : hexValue? c = none) (cs : List Char) :
    percentBytes (cs ++ [c]) = percentBytes cs ++ String.utf8EncodeChar c := by
  fun_induction percentBytes cs with
  | case1 => simp [percentBytes]
  | case2 d => simp [percentBytes]
  | case3 d e => simp [percentBytes, hhex]
  | case4 d e f cs hi lo hpercent hhi hlo ih => simp [percentBytes, hpercent, hhi, hlo, ih]
  | case5 d e f cs hnot ih =>
    rw [List.cons_append] at ih ⊢
    rw [List.append_assoc, ← ih]
    change percentBytes (d :: e :: f :: (cs ++ [c])) = _
    rw [percentBytes]
    split
    · next hpercent hhi hlo => exact (hnot _ _ hpercent hhi hlo).elim
    · rfl

/-- What is so of all blanks and controls of ASCII is so of all of them. -/
theorem of_isPadding {p : Char → Prop} (hall : ∀ n < 0x21, p (Char.ofNat n))
    (h : Url.isPadding c = true) : p c := by
  have hc := hall c.toNat (Nat.lt_succ_of_le (Url.toNat_of_isPadding h))
  rwa [Char.ofNat_toNat] at hc

/-- **A text that ends in a blank spells one that does.** -/
theorem exists_of_percentDecode_concat (hc : Url.isPadding c = true) {text : List Char}
    (h : percentDecode (cs ++ [c]) = .ok text) : ∃ front, text = front ++ [c] := by
  have hlow := Url.toNat_of_isPadding hc
  have hbyte : String.utf8EncodeChar c = [UInt8.ofNat c.toNat] :=
    if_pos (show c.toNat ≤ 127 by omega)
  have hhex : hexValue? c = none := of_isPadding (p := fun c => hexValue? c = none) (by decide) hc
  have hbytes := Utf8.encode_of_decode h
  rw [percentBytes_concat hhex, hbyte] at hbytes
  rcases List.eq_nil_or_concat' text with rfl | ⟨front, d, rfl⟩
  · simp at hbytes
  · obtain ⟨bytes, b, hd⟩ :=
      (List.eq_nil_or_concat' (String.utf8EncodeChar d)).resolve_left String.utf8EncodeChar_ne_nil
    rw [Utf8.encode_append, Utf8.encode_cons, Utf8.encode_nil, List.append_nil, hd,
      ← List.append_assoc] at hbytes
    obtain ⟨-, hlast⟩ := List.append_inj' hbytes rfl
    rw [List.singleton_inj.mp hlast] at hd
    exact ⟨front, by rw [eq_of_concat_eq_utf8EncodeChar (by omega) hd.symm]⟩

end Text

namespace Domain

/-- The spelling of a name that ends in a blank does so as well. -/
theorem exists_of_spelling?_concat (hc : Url.isPadding c = true) {name : List Char}
    (h : spelling? (cs ++ [c]) = some name) : ∃ front, name = front ++ [c] := by
  have hlow := Url.toNat_of_isPadding hc
  have hlower : c.toLower = c := Text.of_isPadding (p := fun c => c.toLower = c) (by decide) hc
  have hmap : mapChar? c = some [c] := by
    rw [mapChar?, if_pos (by omega), hlower]
  rw [spelling?, List.mapM_append] at h
  obtain ⟨all, hall, rfl⟩ := Option.map_eq_some_iff.mp h
  obtain ⟨init, -, hall⟩ := Option.bind_eq_some_iff.mp hall
  obtain ⟨last, hlast, hall⟩ := Option.bind_eq_some_iff.mp hall
  cases hall
  rw [List.mapM_cons, hmap] at hlast
  cases hlast
  refine ⟨Text.normalForm init.flatten, ?_⟩
  rw [List.flatten_append]
  exact Text.normalForm_concat (Nat.lt_of_le_of_lt hlow (by decide)) _

/-- **No name ends in a blank.** -/
theorem ascii?_concat (hc : Url.isPadding c = true) (cs : List Char) :
    ascii? (cs ++ [c]) = none := by
  have hforbidden : isForbidden c = true :=
    Text.of_isPadding (p := fun c => isForbidden c = true) (by decide) hc
  have hname : (spelling? (cs ++ [c])).filter (!·.any isForbidden) = none := by
    rw [Option.filter_eq_none_iff]
    intro name hname
    obtain ⟨front, rfl⟩ := exists_of_spelling?_concat hc hname
    simp [hforbidden]
  rw [ascii?, hname]
  rfl

end Domain

/-- Blanks and controls are no marks of a place. -/
theorem Url.ne_of_isPadding {d : Char} (hc : Url.isPadding c = true)
    (hd : Url.isPadding d = false) : c ≠ d := by
  rintro rfl
  rw [hc] at hd
  cases hd

/-- **No host ends in a blank.** -/
theorem Host.read_concat_ne_ok (hc : Url.isPadding c = true) (cs : List Char) (host : Host) :
    Host.read (cs ++ [c]) ≠ .ok host := by
  intro h
  unfold Host.read at h
  split at h
  · -- In brackets, too, the end counts.
    next inside hinside =>
    have hlast : inside.getLast? ≠ some ']' := by
      intro hclosed
      have hend := congrArg List.getLast? hinside
      rw [List.getLast?_concat, List.getLast?_cons, hclosed] at hend
      exact Url.ne_of_isPadding hc rfl (Option.some.inj hend)
    rw [readBrackets, if_neg hlast] at h
    cases h
  · have hname : (Text.percentDecode (cs ++ [c])).toOption.bind Domain.ascii? = none := by
      rw [Option.bind_eq_none_iff]
      intro text htext
      obtain ⟨front, rfl⟩ := Text.exists_of_percentDecode_concat hc (toOption_eq_some_iff.mp htext)
      exact Domain.ascii?_concat hc front
    rw [hname] at h
    cases h

namespace Url

/-- The end of a place is no part of its user. -/
theorem exists_splitUser_concat (hc : isPadding c = true) (cs : List Char) :
    ∃ front, (splitUser (cs ++ [c])).2 = front ++ [c] := by
  have hat : (c != '@') = true := bne_iff_ne.mpr (ne_of_isPadding hc rfl)
  rw [splitUser]
  split
  · exact ⟨cs.rtakeWhile (· != '@'), List.rtakeWhile_concat_pos _ _ _ hat⟩
  · exact ⟨cs, rfl⟩

/-- No port ends in a blank. -/
theorem readPort_concat {scheme : String} {digits : List Char} (hc : isPadding c = true)
    (hin : ∀ d ∈ digits ++ [c], endsAuthority .server d = false) :
    readPort scheme (':' :: (digits ++ [c])) = .error .port := by
  have hdigit : (Text.digitValue? c).isSome = false :=
    Text.of_isPadding (p := fun c => (Text.digitValue? c).isSome = false) (by decide) hc
  cases hdrop : (digits ++ [c]).dropWhile (fun c => (Text.digitValue? c).isSome) with
  | nil =>
    have hlast := List.dropWhile_eq_nil_iff.mp hdrop c List.mem_concat_self
    rw [hdigit] at hlast
    cases hlast
  | cons d rest =>
    refine readPort_eq_error hdrop (hin d ?_)
    exact (List.dropWhile_suffix _).subset (hdrop ▸ List.mem_cons_self)

/-- **No place ends in a blank.** -/
theorem authorityOf_concat_ne_ok {scheme : String} {place : List Char} {a : Authority}
    (hkind : SchemeKind.ofScheme scheme = .server) (hplace : IsPlace (place ++ [c]))
    (hc : isPadding c = true) : authorityOf scheme (place ++ [c]) ≠ .ok a := by
  intro h
  obtain ⟨⟨a', rest⟩, hread, -⟩ := map_eq_ok_iff.mp h
  have hparts := readAuthority_eq hkind hplace followsPlace_nil
  rw [List.append_nil, List.append_nil, hread] at hparts
  by_cases hempty : (placeHost (place ++ [c])).isEmpty = true
  · rw [if_pos hempty] at hparts
    cases hparts
  rw [if_neg hempty] at hparts
  obtain ⟨host, hhost, hparts⟩ := bind_eq_ok_iff.mp hparts.symm
  obtain ⟨found, hport, -⟩ := bind_eq_ok_iff.mp hparts
  obtain ⟨front, hfront⟩ := exists_splitUser_concat hc place
  have hjoined : placeHost (place ++ [c]) ++ placePort (place ++ [c]) = front ++ [c] :=
    (splitHost_append false _).trans hfront
  rcases head?_splitHost_snd false (splitUser (place ++ [c])).2 with hnone | ⟨digits, hdigits⟩
  · -- Without a port the host ends where the place does.
    change placePort (place ++ [c]) = [] at hnone
    rw [hnone, List.append_nil] at hjoined
    rw [hjoined] at hhost
    exact Host.read_concat_ne_ok hc front host hhost
  · change placePort (place ++ [c]) = ':' :: digits at hdigits
    rcases List.eq_nil_or_concat' digits with rfl | ⟨digits, d, rfl⟩
    · rw [hdigits] at hjoined
      exact ne_of_isPadding hc rfl (List.singleton_inj.mp (List.append_inj' hjoined rfl).2).symm
    · have hsuffix := placePort_suffix (place ++ [c])
      rw [hdigits, List.append_cons] at hjoined
      rw [hdigits] at hsuffix hport
      rw [← List.append_assoc] at hjoined
      obtain rfl := List.singleton_inj.mp (List.append_inj' hjoined rfl).2
      rw [readPort_concat hc fun x hx =>
        hplace.not_end x (hsuffix.subset (List.mem_cons_of_mem _ hx))] at hport
      cases hport

end Url

end CatalogSearch
