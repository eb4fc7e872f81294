import CatalogSearch.Calendar.Reading
import CatalogSearch.Proofs.Text.Decimal
import CatalogSearch.Proofs.Text.Pieces

/-! # How dates are spelled

The spellings of a date, told without a reader: three numbers with `-` between them, white space in
front of any of them, and a sign in front of the year. They are what a date is read from where no
white space may stand before a `-` or at the end, and the written form of a date is one of them.

* **`Date.SpellsNumber`**, **`Date.SpellsYear`**, **`Date.Spells`**: the spellings of a number, a
  year and a date;
* **`Date.readDigits?_eq_some_iff`**: how digits are read;
* **`Date.read?_append`**, **`Date.read?_of_spells`**, **`Date.read?_eq_some_iff`**: how dates are
  read;
* **`Date.bounds`**: the numbers of a date;
* **`Date.spells_text`**: the written form of a date is a spelling of it. -/

namespace CatalogSearch

namespace Text

/-- White space in front of a text is trimmed. -/
theorem trimStart_white_append {white : List Char} (h : ∀ c ∈ white, isWhite c = true)
    (cs : List Char) : trimStart (white ++ cs) = trimStart cs := List.dropWhile_append_of_pos h

/-- Digits are no white space. -/
theorem isWhite_of_isDigit {c : Char} (h : (digitValue? c).isSome = true) : isWhite c = false := by
  unfold digitValue? at h
  split at h
  · next hc =>
    have hlo : 0x30 ≤ c.toNat := UInt32.le_iff_toNat_le.mp (Char.le_def.mp hc.1)
    have hhi : c.toNat ≤ 0x39 := UInt32.le_iff_toNat_le.mp (Char.le_def.mp hc.2)
    rw [isWhite, inRanges, List.any_eq_false]
    simp only [whiteRanges, List.forall_mem_cons, Bool.and_eq_true, decide_eq_true_eq]
    and_intros
    all_goals
      first
        | omega
        | exact fun r hr => absurd hr List.not_mem_nil
  · cases h

/-- A number has no white space in front of it. -/
theorem trimStart_digits_append {ds : List Char} {n : Nat} (h : readNat? ds = some n)
    (cs : List Char) : trimStart (ds ++ cs) = ds ++ cs := by
  obtain ⟨hne, hdigits⟩ := exists_digits_of_readNat? h
  cases ds with
  | nil => exact absurd rfl hne
  | cons d ds =>
    rw [List.cons_append, trimStart_cons, if_neg]
    rw [isWhite_of_isDigit (hdigits d List.mem_cons_self)]
    decide

end Text

namespace Date

/-! ## Spellings -/

/-- **A number is spelled** by at most `width` digits, with white space in front of them perhaps. -/
inductive SpellsNumber (width : Nat) : List Char → Nat → Prop where
  | mk {white digits : List Char} {n : Nat} (hwhite : ∀ c ∈ white, Text.isWhite c = true)
    (hdigits : Text.readNat? digits = some n) (hlength : digits.length ≤ width) :
    SpellsNumber width (white ++ digits) n

/-- Digits by themselves spell their number. -/
theorem SpellsNumber.of_digits {width : Nat} {digits : List Char} {n : Nat}
    (hdigits : Text.readNat? digits = some n) (hlength : digits.length ≤ width) :
    SpellsNumber width digits n := by
  have hwhite : ∀ c ∈ ([] : List Char), Text.isWhite c = true :=
    fun _ hc => absurd hc List.not_mem_nil
  exact .mk hwhite hdigits hlength

/-- **A year is spelled** by at most four digits, or by any number of them after a sign. -/
inductive SpellsYear : List Char → Int → Prop where
  | unsigned {cs : List Char} {n : Nat} (h : SpellsNumber 4 cs n) : SpellsYear cs n
  | positive {white digits : List Char} {n : Nat} (hwhite : ∀ c ∈ white, Text.isWhite c = true)
    (hdigits : Text.readNat? digits = some n) : SpellsYear (white ++ '+' :: digits) n
  | negative {white digits : List Char} {n : Nat} (hwhite : ∀ c ∈ white, Text.isWhite c = true)
    (hdigits : Text.readNat? digits = some n) : SpellsYear (white ++ '-' :: digits) (-n)

/-- **A date is spelled** by its year, its month and its day with `-` between them. -/
inductive Spells : List Char → Date → Prop where
  | mk {year month day : List Char} {d : Date} (hyear : SpellsYear year d.year)
    (hmonth : SpellsNumber 2 month d.month) (hday : SpellsNumber 2 day d.day) :
    Spells (year ++ '-' :: month ++ '-' :: day) d

/-! ## Digits -/

/-- A text that does not go on with a digit. -/
def EndsNumber (cs : List Char) : Prop := ∀ c ∈ cs.head?, Text.digitValue? c = none

/-- No number goes on where a text ends. -/
theorem endsNumber_nil : EndsNumber [] := fun _ hc => nomatch hc

/-- No number goes on with a `-`. -/
theorem endsNumber_dash (cs : List Char) : EndsNumber ('-' :: cs) := by
  intro c hc
  obtain rfl : '-' = c := Option.some.inj hc
  rfl

/-- **Digits are read** as far as they go, but no more of them than the width. -/
theorem readDigits?_eq_some_iff {width : Nat} {cs rest : List Char} {n : Nat} :
    readDigits? width cs = some (n, rest) ↔
      ∃ digits, cs = digits ++ rest ∧ Text.readNat? digits = some n ∧ digits.length ≤ width ∧
        (digits.length < width → EndsNumber rest) := by
  have hread : ∀ digits, (cs.take width).takeWhile (fun c => (Text.digitValue? c).isSome) =
      digits → (readDigits? width cs = some (n, rest) ↔
        Text.readNat? digits = some n ∧ cs.drop digits.length = rest) := by
    rintro digits rfl
    rw [readDigits?, Option.map_eq_some_iff]
    constructor
    · rintro ⟨_, hn, heq⟩
      obtain ⟨rfl, hrest⟩ := Prod.mk.inj heq
      exact ⟨hn, hrest⟩
    · rintro ⟨hn, hrest⟩
      exact ⟨n, hn, Prod.ext rfl hrest⟩
  constructor
  · intro h
    obtain ⟨hn, hrest⟩ := (hread _ rfl).mp h
    generalize hdigits : (cs.take width).takeWhile (fun c => (Text.digitValue? c).isSome) = digits
      at hn hrest
    have htake : digits <+: cs.take width := hdigits ▸ List.takeWhile_prefix _
    have hcs : cs = digits ++ rest := by
      rw [← hrest]
      exact (List.prefix_iff_eq_append.mp (htake.trans (List.take_prefix width cs))).symm
    have hlength : digits.length ≤ width := htake.length_le.trans (List.length_take_le width cs)
    refine ⟨digits, hcs, hn, hlength, fun hlt c hc => ?_⟩
    -- A digit that follows within the width would have been taken.
    obtain ⟨rest', rfl⟩ : ∃ rest', rest = c :: rest' := by
      cases rest with
      | nil => cases hc
      | cons c' rest' => exact ⟨rest', by rw [Option.some.inj hc]⟩
    obtain ⟨k, hk⟩ : ∃ k, width - digits.length = k + 1 := ⟨width - digits.length - 1, by omega⟩
    rw [hcs, List.take_append, List.take_of_length_le hlength, hk, List.take_succ_cons,
      List.takeWhile_append_of_pos (Text.exists_digits_of_readNat? hn).2] at hdigits
    by_contra hdigit
    have hpos : (Text.digitValue? c).isSome = true := Option.isSome_iff_ne_none.mpr hdigit
    rw [List.takeWhile_cons, if_pos hpos] at hdigits
    simpa using congrArg List.length hdigits
  · rintro ⟨digits, rfl, hn, hlength, hends⟩
    have hdigits : ((digits ++ rest).take width).takeWhile
        (fun c => (Text.digitValue? c).isSome) = digits := by
      rw [List.take_append, List.take_of_length_le hlength,
        List.takeWhile_append_of_pos (Text.exists_digits_of_readNat? hn).2]
      refine List.append_right_eq_self.mpr ?_
      cases hk : width - digits.length with
      | zero => rfl
      | succ k =>
        cases rest with
        | nil => rfl
        | cons c rest =>
          have hc : Text.digitValue? c = none := hends (by omega) c rfl
          rw [List.take_succ_cons, List.takeWhile_cons_of_neg (by simp [hc])]
    exact (hread digits hdigits).mpr ⟨hn, List.drop_left⟩

/-! ## Parts of a date -/

variable {cs part rest year month : List Char} {n : Nat} {y : Int}

/-- A month or a day is read where it is spelled. -/
theorem readPart?_append (h : SpellsNumber 2 part n) (hrest : EndsNumber rest) :
    readPart? (part ++ rest) = some (n, rest) := by
  cases h with
  | @mk white digits _ hwhite hdigits hlength =>
    rw [readPart?, List.append_assoc, Text.trimStart_white_append hwhite,
      Text.trimStart_digits_append hdigits]
    exact readDigits?_eq_some_iff.mpr ⟨digits, rfl, hdigits, hlength, fun _ => hrest⟩

/-- Where a number is read after white space, it is spelled. -/
theorem exists_spellsNumber {width : Nat}
    (h : readDigits? width (Text.trimStart cs) = some (n, rest)) :
    ∃ part, cs = part ++ rest ∧ SpellsNumber width part n := by
  obtain ⟨digits, hcs, hn, hlength, -⟩ := readDigits?_eq_some_iff.mp h
  refine ⟨cs.takeWhile Text.isWhite ++ digits, ?_, .mk (fun c => ?_) hn hlength⟩
  · rw [List.append_assoc, ← hcs, Text.trimStart, List.takeWhile_append_dropWhile]
  · exact fun hc => List.mem_takeWhile_imp hc

/-- After a sign, digits are read as far as they go. -/
theorem readDigits?_append {digits : List Char} (h : Text.readNat? digits = some n)
    (hrest : EndsNumber rest) :
    readDigits? (digits ++ rest).length (digits ++ rest) = some (n, rest) := by
  refine readDigits?_eq_some_iff.mpr ⟨digits, rfl, h, ?_, fun _ => hrest⟩
  rw [List.length_append]
  exact Nat.le_add_right _ _

/-- A year is read where it is spelled. -/
theorem readYear?_append (h : SpellsYear year y) (hrest : EndsNumber rest) :
    readYear? (year ++ rest) = some (y, rest) := by
  cases h with
  | unsigned h =>
    cases h with
    | @mk white digits _ hwhite hdigits hlength =>
      have htrim : Text.trimStart (white ++ digits ++ rest) = digits ++ rest := by
        rw [List.append_assoc, Text.trimStart_white_append hwhite,
          Text.trimStart_digits_append hdigits]
      have hread : readDigits? 4 (digits ++ rest) = some (_, rest) :=
        readDigits?_eq_some_iff.mpr ⟨digits, rfl, hdigits, hlength, fun _ => hrest⟩
      obtain ⟨hne, hall⟩ := Text.exists_digits_of_readNat? hdigits
      rw [readYear?, htrim]
      -- The text starts with a digit, and so with no sign.
      cases digits with
      | nil => exact absurd rfl hne
      | cons d digits =>
        have hd := hall d List.mem_cons_self
        split
        · next heq =>
          rw [(List.cons.inj heq).1] at hd
          cases hd
        · next heq =>
          rw [(List.cons.inj heq).1] at hd
          cases hd
        · rw [hread]
          rfl
  | @positive white digits n hwhite hdigits =>
    have htrim : Text.trimStart (white ++ '+' :: digits ++ rest) = '+' :: (digits ++ rest) := by
      rw [List.append_assoc, Text.trimStart_white_append hwhite]
      rfl
    rw [readYear?, htrim]
    simp only [readDigits?_append hdigits hrest, Option.map_some]
  | @negative white digits n hwhite hdigits =>
    have htrim : Text.trimStart (white ++ '-' :: digits ++ rest) = '-' :: (digits ++ rest) := by
      rw [List.append_assoc, Text.trimStart_white_append hwhite]
      rfl
    rw [readYear?, htrim]
    simp only [readDigits?_append hdigits hrest, Option.map_some]

/-- Where a year is read, it is spelled. -/
theorem exists_spellsYear (h : readYear? cs = some (y, rest)) :
    ∃ part, cs = part ++ rest ∧ SpellsYear part y := by
  have hcs : cs = cs.takeWhile Text.isWhite ++ Text.trimStart cs :=
    List.takeWhile_append_dropWhile.symm
  have hwhite : ∀ c ∈ cs.takeWhile Text.isWhite, Text.isWhite c = true :=
    fun c hc => List.mem_takeWhile_imp hc
  unfold readYear? at h
  split at h
  · next after heq =>
    obtain ⟨⟨n, rest'⟩, hread, hy⟩ := Option.map_eq_some_iff.mp h
    obtain ⟨rfl, rfl⟩ := Prod.mk.inj hy
    obtain ⟨digits, hafter, hn, -, -⟩ := readDigits?_eq_some_iff.mp hread
    refine ⟨_, ?_, .negative hwhite hn⟩
    rw [List.append_assoc, List.cons_append, ← hafter, ← heq, ← hcs]
  · next after heq =>
    obtain ⟨⟨n, rest'⟩, hread, hy⟩ := Option.map_eq_some_iff.mp h
    obtain ⟨rfl, rfl⟩ := Prod.mk.inj hy
    obtain ⟨digits, hafter, hn, -, -⟩ := readDigits?_eq_some_iff.mp hread
    refine ⟨_, ?_, .positive hwhite hn⟩
    rw [List.append_assoc, List.cons_append, ← hafter, ← heq, ← hcs]
  · obtain ⟨⟨n, rest'⟩, hread, hy⟩ := Option.map_eq_some_iff.mp h
    obtain ⟨rfl, rfl⟩ := Prod.mk.inj hy
    obtain ⟨part, hpart, hspells⟩ := exists_spellsNumber hread
    exact ⟨part, hpart, .unsigned hspells⟩

/-! ## Whole dates -/

/-- **After a year and a month** that are spelled, a day is left to be read. -/
theorem read?_append (gaps : Gaps) {m : Nat} (hyear : SpellsYear year y)
    (hmonth : SpellsNumber 2 month m) (rest : List Char) :
    read? gaps (year ++ '-' :: month ++ '-' :: rest) =
      (readPart? rest).bind fun (day, cs) =>
        if (gaps.skip cs).isEmpty then of? y m day else none := by
  have hdash (cs : List Char) : readDash? gaps ('-' :: cs) = some cs := by
    cases gaps with
    | allowed => rfl
    | refused => rfl
  rw [read?, List.append_assoc, List.cons_append, readYear?_append hyear (endsNumber_dash _)]
  show (readDash? gaps _).bind _ = _
  rw [hdash, Option.bind_some, readPart?_append hmonth (endsNumber_dash _)]
  show (readDash? gaps _).bind _ = _
  rw [hdash]
  rfl

/-- **A spelling of a date is read as this date**, wherever white space may stand. -/
theorem read?_of_spells (gaps : Gaps) {d : Date} (h : Spells cs d) : read? gaps cs = some d := by
  cases h with
  | @mk year month day _ hyear hmonth hday =>
    have hread : readPart? day = some (d.day, []) := by
      simpa using readPart?_append hday endsNumber_nil
    have hskip : (gaps.skip []).isEmpty = true := by
      cases gaps with
      | allowed => rfl
      | refused => rfl
    rw [read?_append gaps hyear hmonth, hread, Option.bind_some]
    simp only [if_pos hskip]
    exact of?_eq_some_iff.mpr ⟨rfl, rfl, rfl⟩

/-- A `-` that has to follow directly. -/
theorem readDash?_refused_eq_some_iff : readDash? .refused cs = some rest ↔ cs = '-' :: rest := by
  rw [readDash?, Gaps.skip]
  split
  · simp
  · next hne =>
    refine iff_of_false (by simp) ?_
    rintro rfl
    exact hne rest rfl

/-- **A date is read from its spellings**, and from nothing else, where no white space may stand
before a `-` or at the end. -/
theorem read?_eq_some_iff {d : Date} : read? .refused cs = some d ↔ Spells cs d := by
  refine ⟨fun h => ?_, read?_of_spells .refused⟩
  -- Each step of the reader takes a part off the text.
  obtain ⟨⟨y, cs₁⟩, hyear, hrest₁⟩ := Option.bind_eq_some_iff.mp h
  obtain ⟨cs₂, hdash, hrest₂⟩ := Option.bind_eq_some_iff.mp hrest₁
  obtain ⟨⟨m, cs₃⟩, hmonth, hrest₃⟩ := Option.bind_eq_some_iff.mp hrest₂
  obtain ⟨cs₄, hdash', hrest₄⟩ := Option.bind_eq_some_iff.mp hrest₃
  obtain ⟨⟨n, cs₅⟩, hday, hend⟩ := Option.bind_eq_some_iff.mp hrest₄
  obtain ⟨year, hcs, hyear⟩ := exists_spellsYear hyear
  obtain ⟨month, hcs₂, hmonth⟩ := exists_spellsNumber hmonth
  obtain ⟨day, hcs₄, hday⟩ := exists_spellsNumber hday
  have hcs₁ : cs₁ = '-' :: cs₂ := readDash?_refused_eq_some_iff.mp hdash
  have hcs₃ : cs₃ = '-' :: cs₄ := readDash?_refused_eq_some_iff.mp hdash'
  obtain ⟨hcs₅, hdate⟩ : cs₅ = [] ∧ of? y m n = some d := by
    simpa [Gaps.skip] using hend
  obtain ⟨rfl, rfl, rfl⟩ := of?_eq_some_iff.mp hdate
  have hwhole : cs = year ++ '-' :: month ++ '-' :: day := by
    rw [hcs, hcs₁, hcs₂, hcs₃, hcs₄, hcs₅, List.append_nil, List.append_assoc, List.cons_append]
  rw [hwhole]
  exact .mk hyear hmonth hday

/-! ## Written forms -/

/-- A number of two digits, with a zero in front where it needs one. -/
theorem spellsNumber_padNat {width : Nat} (hwidth : 0 < width) (h : n < Nat.pow 10 width) :
    SpellsNumber width (Text.padNat width n) n :=
  .of_digits (Text.readNat?_padNat width n) (Text.length_padNat hwidth h).le

/-- The written form of a year spells it. -/
theorem spellsYear_yearText (y : Int) : SpellsYear (yearText y) y := by
  have hread := Text.readNat?_padNat 4 y.natAbs
  have hwhite : ∀ c ∈ ([] : List Char), Text.isWhite c = true :=
    fun _ hc => absurd hc List.not_mem_nil
  unfold yearText
  split
  · next h =>
    have hlt : y.toNat < 10000 := by omega
    have hpad : SpellsNumber 4 (Text.padNat 4 y.toNat) y.toNat :=
      spellsNumber_padNat (by decide) hlt
    simpa [Int.toNat_of_nonneg h.1] using SpellsYear.unsigned hpad
  · by_cases hneg : y < 0
    · have hy : -(y.natAbs : Int) = y := by omega
      rw [if_pos hneg]
      simpa only [hy, List.nil_append] using SpellsYear.negative hwhite hread
    · have hy : (y.natAbs : Int) = y := by omega
      rw [if_neg hneg]
      simpa only [hy, List.nil_append] using SpellsYear.positive hwhite hread

/-- The numbers of a date are small. -/
theorem bounds (d : Date) :
    (-262143 ≤ d.year ∧ d.year ≤ 262142) ∧ (1 ≤ d.month ∧ d.month ≤ 12) ∧
      1 ≤ d.day ∧ d.day ≤ 31 := by
  obtain ⟨hfirst, hlast, hpos, hday⟩ := d.isDay
  have hmonth : daysInMonth d.year d.month ≤ 31 := by
    unfold daysInMonth
    repeat' split
    all_goals decide
  exact ⟨⟨hfirst, hlast⟩, d.isDay.month_le, hpos, hday.trans hmonth⟩

/-- **The written form of a date spells it.** -/
theorem spells_text (d : Date) : Spells d.text d := by
  obtain ⟨-, hmonth, hday⟩ := d.bounds
  have hmonth' : d.month < 100 := by omega
  have hday' : d.day < 100 := by omega
  exact .mk (spellsYear_yearText d.year) (spellsNumber_padNat (by decide) hmonth')
    (spellsNumber_padNat (by decide) hday')

end Date

end CatalogSearch
