import CatalogSearch.Proofs.Text.Decimal
import CatalogSearch.Proofs.Text.DigitCut
import CatalogSearch.Resource.AgeRange
import Mathlib.Data.List.SplitBy

/-! # What becomes of ages

The pieces of an age range are its runs of digits and what stands between them. Runs that are
numbers are converted, and everything else stays as it is and where it is. An age range that is a
number and nothing else is one piece, so the ages that become a given year at school can be told.

* **`digitRuns_append`**: a text is cut where it changes between digits and other characters;
* **`shownRun`**, **`schoolYear_eq_shownRun`**: how a run is converted;
* **`schoolYears_converts_runs`**: how any text is converted;
* **`schoolYears_natDigits`**: a number is converted into a number;
* **`schoolYears_natDigits_eq_iff`**: which number becomes a given one. -/

namespace CatalogSearch

namespace Text

/-- Different numbers have different digits. -/
theorem natDigits_injective : Function.Injective natDigits := by
  intro m n h
  have hm := readNat?_natDigits m
  rw [h, readNat?_natDigits n] at hm
  exact (Option.some.inj hm).symm

/-- The digits of a number are decimal digits. -/
theorem isDecimalDigit_of_mem_natDigits {c : Char} {n : Nat} (h : c ∈ natDigits n) :
    isDecimalDigit c = true := by
  have hvalue : digitValue? c = some (c.toNat - '0'.toNat) := by
    rw [digitValue?_eq, if_pos (isDigit_of_mem_natDigits h)]
  exact isDecimalDigit_of_digitValue? hvalue

end Text

/-! ## Pieces -/

section Pieces

variable {digit : Bool} {piece rest : List Char}

/-- **A text of digits, or of other characters, is one piece.** -/
theorem digitRuns_of_forall (hne : piece ≠ []) (h : ∀ c ∈ piece, Text.isDecimalDigit c = digit) :
    digitRuns piece = [piece] := by
  have hsame :
      piece.Pairwise fun c d => (Text.isDecimalDigit c == Text.isDecimalDigit d) = true := by
    refine List.pairwise_of_forall_mem_list fun c hc d hd => ?_
    rw [h c hc, h d hd, beq_self_eq_true]
  exact List.splitBy_of_isChain hne hsame.isChain

/-- **A text is cut where it changes** between digits and other characters. -/
theorem digitRuns_append (hne : piece ≠ []) (h : ∀ c ∈ piece, Text.isDecimalDigit c = digit)
    (hrest : ∀ c ∈ rest.head?, Text.isDecimalDigit c = !digit) :
    digitRuns (piece ++ rest) = piece :: digitRuns rest := by
  have hchange : ∀ c ∈ piece.getLast?, ∀ d ∈ rest.head?,
      (Text.isDecimalDigit c == Text.isDecimalDigit d) = false := by
    intro c hc d hd
    rw [h c (List.mem_of_getLast? hc), hrest d hd, Bool.beq_not_self]
  calc
    digitRuns (piece ++ rest) = digitRuns piece ++ digitRuns rest := List.splitBy_append hchange
    _ = piece :: digitRuns rest := by rw [digitRuns_of_forall hne h, List.singleton_append]

/-- Such a piece is converted by itself. -/
theorem schoolYears_append (hne : piece ≠ []) (h : ∀ c ∈ piece, Text.isDecimalDigit c = digit)
    (hrest : ∀ c ∈ rest.head?, Text.isDecimalDigit c = !digit) :
    schoolYears (piece ++ rest) = schoolYear piece ++ schoolYears rest := by
  rw [schoolYears, digitRuns_append hne h hrest, List.flatMap_cons, schoolYears]

/-- What has no digits is no number. -/
theorem schoolYear_of_forall (h : ∀ c ∈ piece, Text.isDecimalDigit c = false) :
    schoolYear piece = piece := by
  cases hread : Text.readNat? piece with
  | none => rw [schoolYear, hread, Option.filter_none]
  | some n =>
    obtain ⟨hne, hdigits⟩ := Text.exists_digits_of_readNat? hread
    obtain ⟨c, hc⟩ := List.exists_mem_of_ne_nil piece hne
    obtain ⟨d, hd⟩ := Option.isSome_iff_exists.mp (hdigits c hc)
    exact absurd (Text.isDecimalDigit_of_digitValue? hd) (by rw [h c hc]; decide)

/-- **What has no digits stays as it is**, up to the next digit. -/
theorem schoolYears_append_of_forall (h : ∀ c ∈ piece, Text.isDecimalDigit c = false)
    (hrest : ∀ c ∈ rest.head?, Text.isDecimalDigit c = true) :
    schoolYears (piece ++ rest) = piece ++ schoolYears rest := by
  by_cases hne : piece = []
  · rw [hne, List.nil_append, List.nil_append]
  · rw [schoolYears_append hne h hrest, schoolYear_of_forall h]

end Pieces

/-! ## Runs of digits -/

/-- **What is shown for a run of digits**: if these are ASCII digits of a number of 32 bits, this
number less five, or zero if it is less than five; otherwise the run. -/
def shownRun (run : List Char) : List Char :=
  if run.all Char.isDigit ∧ Nat.ofDigitChars 10 run 0 < UInt32.size then
    Nat.toDigits 10 (Nat.ofDigitChars 10 run 0 - 5)
  else run

/-- The largest age that is converted is the largest number of 32 bits. -/
theorem le_maxAge_iff {age : Nat} : age ≤ maxAge ↔ age < UInt32.size :=
  Nat.le_sub_one_iff_lt (by decide)

/-- **How a run is converted.** -/
theorem schoolYear_eq_shownRun {run : List Char} (hne : run ≠ []) :
    schoolYear run = shownRun run := by
  rw [schoolYear, Text.readNat?_eq_ofDigitChars hne, shownRun]
  cases run.all Char.isDigit with
  | false => rfl
  | true =>
    rw [if_pos rfl, Option.filter_some]
    by_cases hfits : Nat.ofDigitChars 10 run 0 < UInt32.size
    · rw [if_pos (decide_eq_true (le_maxAge_iff.mpr hfits)), if_pos ⟨rfl, hfits⟩]
      rfl
    · rw [if_neg (fun h => hfits (le_maxAge_iff.mp (of_decide_eq_true h))),
        if_neg (fun h => hfits h.2)]

/-! ## Texts -/

/-- Runs are converted one after another, and what follows them is not. -/
theorem schoolYears_flatMap_text {runs : List Text.DigitRun} (h : Text.DigitRun.Apart runs) :
    schoolYears (runs.flatMap Text.DigitRun.text) =
      runs.flatMap fun run => shownRun run.digits ++ run.rest := by
  induction runs with
  | nil => rfl
  | cons run runs ih =>
    rw [List.flatMap_cons, List.flatMap_cons, Text.DigitRun.text, List.append_assoc,
      List.append_assoc,
      schoolYears_append run.digits_ne_nil run.isDecimalDigit_digits
        (Text.DigitRun.isDecimalDigit_of_mem_head?_rest h),
      schoolYears_append_of_forall run.isDecimalDigit_rest
        (Text.DigitRun.isDecimalDigit_of_mem_head? runs),
      schoolYear_eq_shownRun run.digits_ne_nil, ih h.tail]

/-- **How ages in a text become years at school.** A text is cut in exactly one way into its runs of
digits, as long as they can be, and what stands before, between and behind them. What stands there
is kept in its place. Each run of ASCII digits whose number fits into 32 bits gives way to this
number less five, or to zero if it is less than five, and each other run is kept, too. -/
theorem schoolYears_converts_runs (t : List Char) :
    ∃ cut : Text.DigitCut, (∀ cut' : Text.DigitCut, cut'.text = t ↔ cut' = cut) ∧
      schoolYears t = cut.lead ++ cut.runs.flatMap fun run => shownRun run.digits ++ run.rest := by
  obtain ⟨cut, rfl⟩ := Text.DigitCut.text_surjective t
  refine ⟨cut, fun cut' => Text.DigitCut.text_injective.eq_iff, ?_⟩
  rw [Text.DigitCut.text, schoolYears_append_of_forall cut.isDecimalDigit_lead
    (Text.DigitRun.isDecimalDigit_of_mem_head? cut.runs), schoolYears_flatMap_text cut.apart]

/-- Only the second of four numbers is a run of ASCII digits that fits into 32 bits. -/
example :
    schoolYears "٧ Jahre, ab 007, ٣4 – 4294967296".toList =
      "٧ Jahre, ab 2, ٣4 – 4294967296".toList := by
  decide +kernel

/-! ## Numbers -/

/-- **An age that is a number is that number less the age at which school starts**, or zero. -/
theorem schoolYears_natDigits {age : Nat} (h : age ≤ maxAge) :
    schoolYears (Text.natDigits age) = Text.natDigits (age - schoolAge) := by
  have hruns : digitRuns (Text.natDigits age) = [Text.natDigits age] :=
    digitRuns_of_forall Nat.toDigits_ne_nil fun _ => Text.isDecimalDigit_of_mem_natDigits
  rw [schoolYears, hruns, List.flatMap_singleton, schoolYear, Text.readNat?_natDigits,
    Option.filter_some, if_pos (decide_eq_true h)]

/-- **The age that becomes a given year at school** is this year and the age at which school
starts. -/
theorem schoolYears_natDigits_eq_iff {age year : Nat} (hage : age ≤ maxAge) (hyear : 0 < year) :
    schoolYears (Text.natDigits age) = Text.natDigits year ↔ age = year + schoolAge := by
  rw [schoolYears_natDigits hage, Text.natDigits_injective.eq_iff]
  omega

end CatalogSearch
