import CatalogSearch.Proofs.Calendar.Spelling
import CatalogSearch.Text.Utf8

/-! # Dates at the start of a text

Of a text only the first ten bytes are read as a date. A date in full takes just these, so it is
read whatever follows. A date that is spelled in another way may be longer: then it is not read, or
it is read as another date, when the ten bytes end between the two digits of its day.

* **`Date.leadBytes?_eq_some_iff`**: the first bytes of a text;
* **`Date.SpellsInFull`**: a year in four digits, a month and a day in two;
* **`Date.ofLead?_append`**: dates in full are read whatever follows;
* **`Date.spells_append`**, **`Date.spells_tens`**: dates at the start of spellings of others;
* **`Date.ofLead?_of_spells`**, **`Date.ofLead?_eq_or_none_iff`**: what is read of the spellings of
  a date, and when it is another date. -/

namespace CatalogSearch

namespace Text

/-- The bytes of a text are those of its characters. -/
theorem length_encode_cons (c : Char) (cs : List Char) :
    (Utf8.encode (c :: cs)).length = c.utf8Size + (Utf8.encode cs).length := by
  rw [Utf8.encode_cons, List.length_append, String.length_utf8EncodeChar]

/-- A digit takes one byte. -/
theorem utf8Size_of_isDigit {c : Char} (h : (digitValue? c).isSome = true) : c.utf8Size = 1 := by
  unfold digitValue? at h
  split at h
  · next hc =>
    have hhi : c.val ≤ 57 := Char.le_def.mp hc.2
    exact Char.utf8Size_eq_one_iff.mpr (UInt32.le_trans hhi (by decide))
  · cases h

/-- Digits take one byte each. -/
theorem length_encode_digits {ds : List Char} (h : ∀ c ∈ ds, (digitValue? c).isSome = true) :
    (Utf8.encode ds).length = ds.length := by
  induction ds with
  | nil => rfl
  | cons d ds ih =>
    obtain ⟨hd, hds⟩ := List.forall_mem_cons.mp h
    rw [length_encode_cons, utf8Size_of_isDigit hd, ih hds, List.length_cons, Nat.add_comm]

/-- A digit has a value below ten. -/
theorem lt_ten_of_digitValue? {c : Char} {n : Nat} (h : digitValue? c = some n) : n < 10 := by
  unfold digitValue? at h
  split at h
  · next hc =>
    have hhi : c.toNat ≤ 0x39 := UInt32.le_iff_toNat_le.mp (Char.le_def.mp hc.2)
    have hn : c.toNat - 0x30 = n := Option.some.inj h
    omega
  · cases h

/-- A single digit is read as its value. -/
theorem readNat?_singleton (c : Char) : readNat? [c] = digitValue? c := by
  show (digitValue? c).bind (fun d => some (0 * 10 + d)) = _
  cases digitValue? c with
  | none => rfl
  | some d => simp

/-- **Two digits are read** as ten times the first and the second. -/
theorem readNat?_pair {a b : Char} {n : Nat} (h : readNat? [a, b] = some n) :
    readNat? [a] = some (n / 10) ∧ (digitValue? b).isSome = true := by
  obtain ⟨hi, ha, hrest⟩ := Option.bind_eq_some_iff.mp h
  obtain ⟨lo, hb, hn⟩ := Option.bind_eq_some_iff.mp hrest
  have hlo := lt_ten_of_digitValue? hb
  have hn : (0 * 10 + hi) * 10 + lo = n := Option.some.inj hn
  refine ⟨?_, Option.isSome_of_eq_some hb⟩
  rw [readNat?_singleton, ha, Option.some.injEq]
  omega

end Text

namespace Date

variable {cs lead more : List Char} {d e : Date}

/-! ## First bytes -/

/-- **The first bytes of a text** are a part that it starts with. -/
theorem leadBytes?_eq_some_iff {n : Nat} :
    leadBytes? cs n = some lead ↔ lead <+: cs ∧ (Text.Utf8.encode lead).length = n := by
  have hnil : ∀ lead : List Char, (Text.Utf8.encode lead).length = 0 ↔ lead = [] := by
    intro lead
    cases lead with
    | nil => exact iff_of_true rfl rfl
    | cons c lead =>
      have hpos := c.utf8Size_pos
      rw [Text.length_encode_cons]
      exact iff_of_false (by omega) (List.cons_ne_nil c lead)
  -- By the recursion of the cut: each character that fits takes its bytes.
  fun_induction leadBytes? cs n generalizing lead with
  | case1 cs =>
    rw [hnil, Option.some.injEq, eq_comm]
    exact ⟨fun h => ⟨h ▸ List.nil_prefix, h⟩, And.right⟩
  | case2 n =>
    refine iff_of_false (by simp) ?_
    rintro ⟨hlead, hsize⟩
    rw [List.prefix_nil.mp hlead] at hsize
    cases hsize
  | case3 c cs n hfits ih =>
    simp only [Option.map_eq_some_iff, ih]
    constructor
    · rintro ⟨lead, ⟨hlead, hsize⟩, rfl⟩
      refine ⟨List.cons_prefix_cons.mpr ⟨rfl, hlead⟩, ?_⟩
      rw [Text.length_encode_cons, hsize]
      omega
    · rintro ⟨hlead, hsize⟩
      rcases List.prefix_cons_iff.mp hlead with rfl | ⟨lead, rfl, hrest⟩
      · cases hsize
      · rw [Text.length_encode_cons] at hsize
        exact ⟨lead, ⟨hrest, by omega⟩, rfl⟩
  | case4 c cs n hfits =>
    refine iff_of_false (by simp) ?_
    rintro ⟨hlead, hsize⟩
    rcases List.prefix_cons_iff.mp hlead with rfl | ⟨lead, rfl, -⟩
    · cases hsize
    · rw [Text.length_encode_cons] at hsize
      omega

/-- **A date is read at the start of a text** where the first ten bytes spell it. -/
theorem ofLead?_eq_some_iff :
    ofLead? cs = some e ↔
      ∃ lead more, cs = lead ++ more ∧ (Text.Utf8.encode lead).length = writtenSize ∧
        Spells lead e := by
  simp only [ofLead?, Option.bind_eq_some_iff, leadBytes?_eq_some_iff, read?_eq_some_iff]
  constructor
  · rintro ⟨lead, ⟨⟨more, rfl⟩, hsize⟩, hspells⟩
    exact ⟨lead, more, rfl, hsize, hspells⟩
  · rintro ⟨lead, more, rfl, hsize, hspells⟩
    exact ⟨lead, ⟨List.prefix_append lead more, hsize⟩, hspells⟩

/-! ## Dates in full -/

/-- **A date is spelled in full** by four digits for its year, two for its month and two for its
day. -/
inductive SpellsInFull : List Char → Date → Prop where
  | mk {year month day : List Char} {n : Nat} {d : Date} (hyear : Text.readNat? year = some n)
    (hn : d.year = n) (hmonth : Text.readNat? month = some d.month)
    (hday : Text.readNat? day = some d.day)
    (hlengths : year.length = 4 ∧ month.length = 2 ∧ day.length = 2) :
    SpellsInFull (year ++ '-' :: month ++ '-' :: day) d

/-- A date in full is a spelling of it. -/
theorem SpellsInFull.spells (h : SpellsInFull cs d) : Spells cs d := by
  cases h with
  | @mk year month day n _ hyear hn hmonth hday hlengths =>
    obtain ⟨hyear', hmonth', hday'⟩ := hlengths
    refine .mk ?_ (.of_digits hmonth hmonth'.le) (.of_digits hday hday'.le)
    rw [hn]
    exact .unsigned (.of_digits hyear hyear'.le)

/-- A date in full takes ten bytes. -/
theorem SpellsInFull.length_encode (h : SpellsInFull cs d) :
    (Text.Utf8.encode cs).length = writtenSize := by
  cases h with
  | mk hyear hn hmonth hday hlengths =>
    obtain ⟨hyear', hmonth', hday'⟩ := hlengths
    have hdash : '-'.utf8Size = 1 := rfl
    rw [Text.Utf8.encode_append, Text.Utf8.encode_append, List.length_append, List.length_append,
      Text.length_encode_cons, Text.length_encode_cons, hdash,
      Text.length_encode_digits (Text.exists_digits_of_readNat? hyear).2,
      Text.length_encode_digits (Text.exists_digits_of_readNat? hmonth).2,
      Text.length_encode_digits (Text.exists_digits_of_readNat? hday).2, hyear', hmonth', hday']
    rfl

/-- **A date in full is read, whatever follows.** -/
theorem ofLead?_append (h : SpellsInFull cs d) (rest : List Char) :
    ofLead? (cs ++ rest) = some d :=
  ofLead?_eq_some_iff.mpr ⟨cs, rest, rfl, h.length_encode, h.spells⟩

/-- **The written form of a date is in full** from the year 0 to the year 9999. -/
theorem spellsInFull_text (h : 0 ≤ d.year ∧ d.year ≤ 9999) : SpellsInFull d.text d := by
  obtain ⟨-, hmonth, hday⟩ := d.bounds
  have hyear : d.year.toNat < 10000 := by omega
  have hmonth' : d.month < 100 := by omega
  have hday' : d.day < 100 := by omega
  rw [text, yearText, if_pos h]
  exact .mk (Text.readNat?_padNat 4 _) (Int.toNat_of_nonneg h.1).symm (Text.readNat?_padNat 2 _)
    (Text.readNat?_padNat 2 _) ⟨Text.length_padNat (by decide) hyear,
      Text.length_padNat (by decide) hmonth', Text.length_padNat (by decide) hday'⟩

/-! ## Dates in other spellings -/

/-- **A spelling that goes on as one of another date** does so by the second digit of the day. -/
theorem spells_append (he : Spells lead e) (hd : Spells (lead ++ more) d) (hmore : more ≠ []) :
    (Text.Utf8.encode more).length = 1 ∧ of? d.year d.month (d.day / 10) = some e := by
  cases he with
  | @mk year month day _ hyear hmonth hday =>
    have hread := read?_of_spells .refused hd
    rw [List.append_assoc, List.cons_append, read?_append .refused hyear hmonth] at hread
    obtain ⟨⟨n, rest⟩, hpart, hdate⟩ := Option.bind_eq_some_iff.mp hread
    obtain ⟨rfl, hdate⟩ : rest = [] ∧ of? e.year e.month n = some d := by
      simpa [Gaps.skip] using hdate
    obtain ⟨hy, hm, hn⟩ := of?_eq_some_iff.mp hdate
    cases hday with
    | @mk white digits _ hwhite hdigits hlength =>
      -- The day of the whole text has the digits of the other day, and at least one more.
      rw [readPart?, List.append_assoc, Text.trimStart_white_append hwhite,
        Text.trimStart_digits_append hdigits] at hpart
      obtain ⟨all, hall, hn', hlength', -⟩ := readDigits?_eq_some_iff.mp hpart
      rw [List.append_nil] at hall
      rw [← hall, List.length_append] at hlength'
      have hpos := List.length_pos_iff.mpr (Text.exists_digits_of_readNat? hdigits).1
      have hpos' := List.length_pos_iff.mpr hmore
      obtain ⟨a, rfl⟩ := List.length_eq_one_iff.mp (show digits.length = 1 by omega)
      obtain ⟨b, rfl⟩ := List.length_eq_one_iff.mp (show more.length = 1 by omega)
      rw [← hall] at hn'
      obtain ⟨ha, hb⟩ := Text.readNat?_pair hn'
      rw [hdigits, Option.some.injEq] at ha
      refine ⟨?_, of?_eq_some_iff.mpr ⟨hy.symm, hm.symm, ?_⟩⟩
      · rw [Text.length_encode_cons, Text.utf8Size_of_isDigit hb]
        rfl
      · rw [hn, ha]

/-- **A date with two digits for its day** is spelled with another date at its start. -/
theorem spells_tens (hd : Spells cs d) (he : of? d.year d.month (d.day / 10) = some e) :
    ∃ lead c, cs = lead ++ [c] ∧ c.utf8Size = 1 ∧ Spells lead e := by
  obtain ⟨hy, hm, hn⟩ := of?_eq_some_iff.mp he
  cases hd with
  | @mk year month day _ hyear hmonth hday =>
    cases hday with
    | @mk white digits _ hwhite hdigits hlength =>
      have hten : 10 ≤ d.day := by
        have hpos := e.isDay.2.2.1
        omega
      -- The second digit is what the other spelling lacks.
      match digits, hdigits, hlength with
      | [a], hdigits, _ =>
        rw [Text.readNat?_singleton] at hdigits
        have := Text.lt_ten_of_digitValue? hdigits
        omega
      | [a, b], hdigits, _ =>
        obtain ⟨ha, hb⟩ := Text.readNat?_pair hdigits
        refine ⟨year ++ '-' :: month ++ '-' :: (white ++ [a]), b, by simp,
          Text.utf8Size_of_isDigit hb, ?_⟩
        rw [← hn] at ha
        exact .mk (hy ▸ hyear) (hm ▸ hmonth) (.mk hwhite ha (Nat.le_succ 1))

/-- **What is read of a spelling of a date**: the date itself if the spelling takes ten bytes. If it
takes one more, it is the day of the first digit alone that is read, where there is such a day. No
other spelling is read. -/
theorem ofLead?_of_spells (h : Spells cs d) :
    ofLead? cs =
      if (Text.Utf8.encode cs).length = writtenSize then some d
      else if (Text.Utf8.encode cs).length = writtenSize + 1 then of? d.year d.month (d.day / 10)
      else none := by
  by_cases hten : (Text.Utf8.encode cs).length = writtenSize
  · rw [if_pos hten]
    exact ofLead?_eq_some_iff.mpr ⟨cs, [], (List.append_nil cs).symm, hten, h⟩
  rw [if_neg hten]
  -- The first ten bytes are not all, so that what they spell is a date with one digit less.
  have hlead : ∀ e, ofLead? cs = some e →
      (Text.Utf8.encode cs).length = writtenSize + 1 ∧
        of? d.year d.month (d.day / 10) = some e := by
    intro e he
    obtain ⟨lead, more, rfl, hsize, hspells⟩ := ofLead?_eq_some_iff.mp he
    have hmore : more ≠ [] := by
      rintro rfl
      rw [List.append_nil] at hten
      exact hten hsize
    obtain ⟨hone, hdate⟩ := spells_append hspells h hmore
    rw [Text.Utf8.encode_append, List.length_append, hsize, hone]
    exact ⟨rfl, hdate⟩
  by_cases heleven : (Text.Utf8.encode cs).length = writtenSize + 1
  · rw [if_pos heleven]
    refine Option.ext fun e => ⟨fun he => (hlead e he).2, fun he => ?_⟩
    obtain ⟨lead, c, rfl, hc, hspells⟩ := spells_tens h he
    rw [Text.Utf8.encode_append, List.length_append, Text.length_encode_cons, hc] at heleven
    exact ofLead?_eq_some_iff.mpr ⟨lead, [c], rfl, Nat.succ.inj heleven, hspells⟩
  · rw [if_neg heleven, Option.eq_none_iff_forall_ne_some]
    exact fun e he => heleven (hlead e he).1

/-- **A spelling of a date is read as another date** exactly if it takes eleven bytes and the day
has two digits of its own. -/
theorem ofLead?_eq_or_none_iff (h : Spells cs d) :
    (ofLead? cs = some d ∨ ofLead? cs = none) ↔
      ¬ ((Text.Utf8.encode cs).length = writtenSize + 1 ∧ 10 ≤ d.day) := by
  rw [ofLead?_of_spells h]
  by_cases hten : (Text.Utf8.encode cs).length = writtenSize
  · rw [if_pos hten, hten]
    exact iff_of_true (Or.inl rfl) (by simp)
  rw [if_neg hten]
  by_cases heleven : (Text.Utf8.encode cs).length = writtenSize + 1
  · obtain ⟨hfirst, hlast, hpos, hday⟩ := d.isDay
    have hnone : of? d.year d.month (d.day / 10) = none ↔ ¬ IsDay d.year d.month (d.day / 10) := by
      simp [of?]
    rw [if_pos heleven, of?_eq_some_iff, hnone]
    simp only [IsDay, heleven, true_and]
    omega
  · rw [if_neg heleven]
    exact iff_of_true (Or.inr rfl) fun hboth => heleven hboth.1

end Date

end CatalogSearch
