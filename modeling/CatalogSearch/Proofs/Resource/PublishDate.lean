import CatalogSearch.Proofs.Calendar.Lead
import CatalogSearch.Proofs.Json.FieldPut
import CatalogSearch.Proofs.Number.Integer
import CatalogSearch.Proofs.Resource.Leniency

/-! # Publication dates as sources give them

A publication date comes as a text or as a list of numbers. Of a text the first ten bytes count, of
a list the first three numbers, and of month and day among these only the low 32 bits. So there are
texts and lists that are read as another date than they spell.

* **`Resource.ReadsDate`**: what a value is read as where it stands for the date of a resource;
* **`Resource.readsDate_text`**: texts, and when they are read as another date than they spell;
* **`dateOf?_numbers_eq_some_iff`**, **`Resource.readsDate_integers`**: lists of integers. -/

namespace CatalogSearch

namespace Resource

/-- **A value is read as a publication date**, or as none: a resource that has this value set for
its date is read as before, with this date. -/
def ReadsDate (around : Nat) (v : Json) (date : Option Date) : Prop :=
  ∀ json json' r, Codec.PutsField fields "publishDate" v json json' →
    codec.decode around json = .ok r →
      codec.decode around json' = .ok { r with publishDate := date }

/-- **Any value is read as the date it stands for**, if it is not nested too deep. -/
theorem readsDate_dateOf? {around : Nat} {v : Json} (hv : v.isFree (around + 1) = true) :
    ReadsDate around v (dateOf? v) := by
  intro json json' r hputs hr
  have hfault : ∀ x, v ≠ .fault x := by
    rintro x rfl
    cases hv
  have hfield : fields[15]? = some (.of "publishDate" .always .date (·.publishDate) fun v r =>
      { r with publishDate := v }) := rfl
  exact Codec.record_put independentFields (List.mem_of_getElem? hfield)
    (Codec.Field.decode_of (Codec.free_eq_ok hv)) hfault hputs hr

/-! ## Texts -/

/-- **What a text is read as.** A text that spells a date is read as this date if it takes ten
bytes. If it takes one more, it is read as the day that the first of two digits names, and otherwise
as none. So it is read as another date exactly if it takes eleven bytes and has two digits for a day
from the tenth on. A text that starts with a date in full is read as this date, whatever follows. -/
theorem readsDate_text {around : Nat} (haround : around < Json.maxDepth) (s : String) :
    (∀ d, Date.Spells s.toList d →
      ∃ date, ReadsDate around (.string s) date ∧
        date = (if (Text.Utf8.encode s.toList).length = Date.writtenSize then some d
          else if (Text.Utf8.encode s.toList).length = Date.writtenSize + 1 then
            Date.of? d.year d.month (d.day / 10)
          else none) ∧
        (date = some d ∨ date = none ↔
          ¬ ((Text.Utf8.encode s.toList).length = Date.writtenSize + 1 ∧ 10 ≤ d.day))) ∧
      ∀ d cs rest, s.toList = cs ++ rest → Date.SpellsInFull cs d →
        ReadsDate around (.string s) (some d) := by
  have hfree : (Json.string s).isFree (around + 1) = true := by
    show decide (around + 1 ≤ Json.maxDepth) = true
    exact decide_eq_true haround
  have hread : ReadsDate around (.string s) (Date.ofLead? s.toList) := readsDate_dateOf? hfree
  constructor
  · intro d hd
    exact ⟨_, hread, Date.ofLead?_of_spells hd, Date.ofLead?_eq_or_none_iff hd⟩
  · intro d cs rest hs hd
    rwa [hs, Date.ofLead?_append hd] at hread

/-- The twelfth of January. -/
def january12 : Date := ⟨2024, 1, 12, by decide⟩

/-- The first of January. -/
def january1 : Date := ⟨2024, 1, 1, by decide⟩

/-- A date with a blank in front of it is read as another one. With a time behind it, it is read as
itself. -/
theorem readsDate_text_spaced :
    Date.Spells " 2024-01-12".toList january12 ∧
      ReadsDate 0 (.string " 2024-01-12") (some january1) ∧
      Date.SpellsInFull "2024-01-12".toList january12 ∧
      ReadsDate 0 (.string "2024-01-12T18:00:00Z") (some january12) := by
  have hspells : Date.Spells " 2024-01-12".toList january12 :=
    Date.read?_eq_some_iff.mp (by decide +kernel)
  have hfull : Date.SpellsInFull "2024-01-12".toList january12 :=
    Date.spellsInFull_text (d := january12) (by decide)
  obtain ⟨date, hread, hdate, -⟩ :=
    (readsDate_text (by decide : 0 < Json.maxDepth) " 2024-01-12").1 january12 hspells
  have htime := (readsDate_text (by decide : 0 < Json.maxDepth) "2024-01-12T18:00:00Z").2 january12
    "2024-01-12".toList "T18:00:00Z".toList (by decide) hfull
  have hother : date = some january1 := by
    rw [hdate]
    decide +kernel
  rw [hother] at hread
  exact ⟨hspells, hread, hfull, htime⟩

/-- **A text that spells a date is read as another date**: the last digit is cut off. This happens
to the written forms of dates before the year 0 as well. -/
theorem misread_twelfth :
    Date.Spells " 2024-01-12".toList january12 ∧
      codec.decode 0 (.object [("publishDate", .string " 2024-01-12")]) =
        .ok { publishDate := some january1 } ∧
      january1 ≠ january12 ∧
      codec.decode 0 (.object [("publishDate", dateValue ⟨-1, 1, 12, by decide⟩)]) =
        .ok { publishDate := some ⟨-1, 1, 1, by decide⟩ } := by
  refine ⟨Date.read?_eq_some_iff.mp (by decide +kernel), ?_, by decide, ?_⟩
  · rfl
  · rfl

end Resource

/-! ## Lists of numbers -/

/-- The date of three numbers in a list has their low 32 bits for its month and its day. -/
theorem Date.ofTriple?_eq_some_iff {y : Int} {m d : Nat} {date : Date} :
    ofTriple? y m d = some date ↔
      date.year = y ∧ date.month = m % UInt32.size ∧ date.day = d % UInt32.size := by
  obtain ⟨hyear, -⟩ := date.bounds
  have hsize : UInt32.size = 4294967296 := rfl
  unfold ofTriple?
  split
  · exact of?_eq_some_iff
  · next hrange =>
    refine iff_of_false (by simp) ?_
    rintro ⟨rfl, -⟩
    exact hrange (by omega)

/-- A list of numbers stands for the date of its first three, if they are whole. -/
theorem dateOf?_numbers_eq_some_iff {year month day : Numeral} {rest : List Json} {date : Date} :
    dateOf? (.array (.number year :: .number month :: .number day :: rest)) = some date ↔
      ∃ (y : Int) (m d : Nat), year.value = .whole y ∧ month.value = .whole m ∧
        day.value = .whole d ∧ Date.ofTriple? y m d = some date := by
  rw [dateOf?]
  constructor
  · intro h
    split at h
    · next y m d hy hm hd => exact ⟨y, m, d, hy, hm, hd, h⟩
    · cases h
  · rintro ⟨y, m, d, hy, hm, hd, h⟩
    rw [hy, hm, hd]
    exact h

namespace Resource

/-- **What a list of integers is read as**: the day that the first three of them name, with no more
than the low 32 bits of month and day, which have to be words of 64 bits. A zero with a minus in
front is no year. So a list is read as the day that it names, and as none where it names none, if
month and day fit 32 bits and the year is not written as such a zero. -/
theorem readsDate_integers {around : Nat} {year month day : Numeral} {y m d : Int}
    {rest : List Json} (hyear : year.IsInteger y) (hmonth : month.IsInteger m)
    (hday : day.IsInteger d)
    (hfree : (Json.array (.number year :: .number month :: .number day :: rest)).isFree
      (around + 1) = true) :
    ∃ date,
      ReadsDate around (.array (.number year :: .number month :: .number day :: rest)) date ∧
      (∀ e, date = some e ↔
        (e.year = y ∧ ¬ year.IsNegativeZero y) ∧
          (0 ≤ m ∧ m < UInt64.size ∧ (e.month : Int) = m % UInt32.size) ∧
          0 ≤ d ∧ d < UInt64.size ∧ (e.day : Int) = d % UInt32.size) ∧
      (m < UInt32.size → d < UInt32.size → ¬ year.IsNegativeZero y →
        ∀ e, date = some e ↔ e.year = y ∧ (e.month : Int) = m ∧ (e.day : Int) = d) := by
  have hdate : ∀ e, dateOf? (.array (.number year :: .number month :: .number day :: rest)) =
      some e ↔ (e.year = y ∧ ¬ year.IsNegativeZero y) ∧
        (0 ≤ m ∧ m < UInt64.size ∧ (e.month : Int) = m % UInt32.size) ∧
        0 ≤ d ∧ d < UInt64.size ∧ (e.day : Int) = d % UInt32.size := by
    intro e
    obtain ⟨hlimits, hmonth', hday'⟩ := e.bounds
    simp only [dateOf?_numbers_eq_some_iff, hyear.value_eq_whole_iff, hmonth.value_eq_whole_iff,
      hday.value_eq_whole_iff, Date.ofTriple?_eq_some_iff, UInt32.size, UInt64.size]
    constructor
    · rintro ⟨y', m', d', ⟨rfl, -, -, hzero⟩, ⟨rfl, -, hm, -⟩, ⟨rfl, -, hd, -⟩, hy, hm', hd'⟩
      exact ⟨⟨hy, hzero⟩, by omega, by omega⟩
    · rintro ⟨⟨rfl, hzero⟩, ⟨hm, hm64, hmlow⟩, hd, hd64, hdlow⟩
      -- A zero is no month and no day.
      have hm0 : ¬ month.IsNegativeZero m := by
        rintro ⟨-, rfl⟩
        omega
      have hd0 : ¬ day.IsNegativeZero d := by
        rintro ⟨-, rfl⟩
        omega
      exact ⟨_, m.toNat, d.toNat, ⟨rfl, by omega, by omega, hzero⟩,
        ⟨by omega, by omega, by omega, hm0⟩, ⟨by omega, by omega, by omega, hd0⟩, rfl, by omega,
        by omega⟩
  refine ⟨_, readsDate_dateOf? hfree, hdate, fun hm hd hzero e => ?_⟩
  obtain ⟨-, hmonth', hday'⟩ := e.bounds
  rw [hdate]
  unfold UInt32.size UInt64.size at *
  constructor
  · rintro ⟨⟨hy, -⟩, ⟨hm0, -, hmlow⟩, hd0, -, hdlow⟩
    exact ⟨hy, by omega, by omega⟩
  · rintro ⟨hy, hm', hd'⟩
    exact ⟨⟨hy, hzero⟩, by omega, by omega⟩

/-- A month of more than 32 bits. -/
def wideMonth : Nat := UInt32.size + 1

/-- A list of a year, a month of more than 32 bits and a day. -/
def wideList : Json := .array [.ofNat 2024, .ofNat wideMonth, .ofNat 12]

/-- The month counts as January. -/
theorem readsDate_integers_wide :
    (Numeral.ofNat 2024).IsInteger 2024 ∧ (Numeral.ofNat wideMonth).IsInteger wideMonth ∧
      (Numeral.ofNat 12).IsInteger 12 ∧ wideList.isFree 1 = true ∧
      ReadsDate 0 wideList (some january12) := by
  have hyear : (Numeral.ofNat 2024).IsInteger 2024 := ⟨rfl, rfl, by decide, rfl⟩
  have hmonth : (Numeral.ofNat wideMonth).IsInteger wideMonth := ⟨rfl, rfl, by decide +kernel, rfl⟩
  have hday : (Numeral.ofNat 12).IsInteger 12 := ⟨rfl, rfl, by decide, rfl⟩
  have hfree : wideList.isFree 1 = true := by decide +kernel
  obtain ⟨date, hread, hdate, -⟩ := @readsDate_integers 0 _ _ _ _ _ _ [] hyear hmonth hday hfree
  obtain rfl := (hdate january12).mpr (by decide)
  exact ⟨hyear, hmonth, hday, hfree, hread⟩

/-- **A list that names no day is read as a date.** -/
theorem misread_wideMonth :
    (∀ e : Date, (e.month : Int) ≠ wideMonth) ∧
      codec.decode 0 (.object [("publishDate", wideList)]) =
        .ok { publishDate := some january12 } := by
  refine ⟨fun e he => ?_, rfl⟩
  obtain ⟨-, hmonth, -⟩ := e.bounds
  unfold wideMonth UInt32.size at he
  omega

end Resource

end CatalogSearch
