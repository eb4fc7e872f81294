import CatalogSearch.Proofs.Text.Pieces
import CatalogSearch.Text.Digit
import Mathlib.Data.List.Chain

/-! # Texts cut at their numbers

A text is its runs of decimal digits and what stands between them. Runs are as long as they can be:
each one ends where the text ends or goes on with something else.

* **`Text.DigitRun`**: a run of digits and what follows it;
* **`Text.DigitCut`**: a text cut at all its runs;
* **`Text.DigitCut.text_injective`**, **`Text.DigitCut.text_surjective`**: every text is cut in
  exactly one way. -/

namespace CatalogSearch.Text

/-- **A run of decimal digits**, of whatever script, with what follows it up to the next run. -/
@[ext]
structure DigitRun where
  digits : List Char
  /-- What follows the digits. -/
  rest : List Char
  digits_ne_nil : digits ≠ []
  isDecimalDigit_digits : ∀ c ∈ digits, isDecimalDigit c = true
  isDecimalDigit_rest : ∀ c ∈ rest, isDecimalDigit c = false

/-- **Runs that stand apart**: something stands between any run and the next. -/
def DigitRun.Apart (runs : List DigitRun) : Prop := runs.IsChain fun run _ => run.rest ≠ []

/-- **A text cut at its runs of decimal digits.** No run can be longer than it is: there are no
digits before the first one, and the runs stand apart. -/
@[ext]
structure DigitCut where
  /-- What stands before the first run. -/
  lead : List Char
  runs : List DigitRun
  isDecimalDigit_lead : ∀ c ∈ lead, isDecimalDigit c = false
  apart : DigitRun.Apart runs

namespace DigitRun

/-- A run and what follows it. -/
def text (run : DigitRun) : List Char := run.digits ++ run.rest

/-- A run of one digit. -/
def single {c : Char} (hc : isDecimalDigit c = true) (rest : List Char)
    (hrest : ∀ d ∈ rest, isDecimalDigit d = false) : DigitRun where
  digits := [c]
  rest := rest
  digits_ne_nil := List.cons_ne_nil c []
  isDecimalDigit_digits := List.forall_mem_singleton.mpr hc
  isDecimalDigit_rest := hrest

/-- A run with one more digit in front. -/
def cons {c : Char} (hc : isDecimalDigit c = true) (run : DigitRun) : DigitRun where
  digits := c :: run.digits
  rest := run.rest
  digits_ne_nil := List.cons_ne_nil c run.digits
  isDecimalDigit_digits := List.forall_mem_cons.mpr ⟨hc, run.isDecimalDigit_digits⟩
  isDecimalDigit_rest := run.isDecimalDigit_rest

/-- A run is not empty. -/
theorem text_ne_nil (run : DigitRun) : run.text ≠ [] :=
  List.append_ne_nil_of_left_ne_nil run.digits_ne_nil run.rest

/-- What starts with a run starts with a digit. -/
theorem isDecimalDigit_of_mem_head? (runs : List DigitRun) :
    ∀ c ∈ (runs.flatMap text).head?, isDecimalDigit c = true := by
  cases runs with
  | nil =>
    intro c hc
    cases hc
  | cons run runs =>
    intro c hc
    obtain ⟨d, ds, hdigits⟩ := List.exists_cons_of_ne_nil run.digits_ne_nil
    rw [List.flatMap_cons, text, hdigits] at hc
    obtain rfl : d = c := Option.some.inj hc
    exact run.isDecimalDigit_digits d (hdigits ▸ List.mem_cons_self)

/-- What follows a run does not start with a digit, as the next run stands apart. -/
theorem isDecimalDigit_of_mem_head?_rest {run : DigitRun} {runs : List DigitRun}
    (h : Apart (run :: runs)) :
    ∀ c ∈ (run.rest ++ runs.flatMap text).head?, isDecimalDigit c = false := by
  intro c hc
  cases hrest : run.rest with
  | nil =>
    cases runs with
    | nil =>
      rw [hrest] at hc
      cases hc
    | cons next runs => exact absurd hrest (List.isChain_cons_cons.mp h).1
  | cons d ds =>
    rw [hrest] at hc
    obtain rfl : d = c := Option.some.inj hc
    exact run.isDecimalDigit_rest d (hrest ▸ List.mem_cons_self)

end DigitRun

/-- What stands before a change between digits and other characters, of either kind. -/
theorem takeWhile_isDecimalDigit {digit : Bool} {front rest : List Char}
    (hfront : ∀ c ∈ front, isDecimalDigit c = digit)
    (hrest : ∀ c ∈ rest.head?, isDecimalDigit c = !digit) :
    (front ++ rest).takeWhile (isDecimalDigit · == digit) = front := by
  refine takeWhile_append_of_head? (fun c hc => ?_) (fun c hc => ?_)
  · rw [hfront c hc, beq_self_eq_true]
  · rw [hrest c hc, Bool.not_beq_self]

/-- **Where a text changes between digits and other characters can be told from the text.** -/
theorem eq_of_append_eq_append {digit : Bool} {front front' rest rest' : List Char}
    (hfront : ∀ c ∈ front, isDecimalDigit c = digit)
    (hfront' : ∀ c ∈ front', isDecimalDigit c = digit)
    (hrest : ∀ c ∈ rest.head?, isDecimalDigit c = !digit)
    (hrest' : ∀ c ∈ rest'.head?, isDecimalDigit c = !digit)
    (h : front ++ rest = front' ++ rest') : front = front' ∧ rest = rest' := by
  have heq : front = front' := by
    rw [← takeWhile_isDecimalDigit hfront hrest, h, takeWhile_isDecimalDigit hfront' hrest']
  subst heq
  exact ⟨rfl, List.append_cancel_left h⟩

namespace DigitCut

/-- **The text that is cut.** -/
def text (cut : DigitCut) : List Char := cut.lead ++ cut.runs.flatMap DigitRun.text

/-- Runs that stand apart can be told from their text. -/
theorem runs_eq_of_flatMap_eq {runs runs' : List DigitRun} (h : DigitRun.Apart runs)
    (h' : DigitRun.Apart runs')
    (heq : runs.flatMap DigitRun.text = runs'.flatMap DigitRun.text) : runs = runs' := by
  induction runs generalizing runs' with
  | nil =>
    cases runs' with
    | nil => rfl
    | cons run' runs' =>
      exact absurd (List.append_eq_nil_iff.mp heq.symm).1 run'.text_ne_nil
  | cons run runs ih =>
    cases runs' with
    | nil => exact absurd (List.append_eq_nil_iff.mp heq).1 run.text_ne_nil
    | cons run' runs' =>
      rw [List.flatMap_cons, List.flatMap_cons, DigitRun.text, DigitRun.text, List.append_assoc,
        List.append_assoc] at heq
      -- Both texts change where their first digits end, and again where their next runs begin.
      obtain ⟨hdigits, heq⟩ := eq_of_append_eq_append run.isDecimalDigit_digits
        run'.isDecimalDigit_digits (DigitRun.isDecimalDigit_of_mem_head?_rest h)
        (DigitRun.isDecimalDigit_of_mem_head?_rest h') heq
      obtain ⟨hrest, heq⟩ := eq_of_append_eq_append run.isDecimalDigit_rest
        run'.isDecimalDigit_rest (DigitRun.isDecimalDigit_of_mem_head? runs)
        (DigitRun.isDecimalDigit_of_mem_head? runs') heq
      rw [DigitRun.ext hdigits hrest, ih h.tail h'.tail heq, List.tail_cons]

/-- **A text is cut in one way only.** -/
theorem text_injective : Function.Injective text := by
  intro cut cut' h
  obtain ⟨hlead, hruns⟩ := eq_of_append_eq_append cut.isDecimalDigit_lead cut'.isDecimalDigit_lead
    (DigitRun.isDecimalDigit_of_mem_head? cut.runs)
    (DigitRun.isDecimalDigit_of_mem_head? cut'.runs) h
  exact DigitCut.ext hlead (runs_eq_of_flatMap_eq cut.apart cut'.apart hruns)

/-- **Every text can be cut.** -/
theorem text_surjective : Function.Surjective text := by
  intro t
  induction t with
  | nil => exact ⟨⟨[], [], List.forall_mem_nil _, .nil⟩, rfl⟩
  | cons c t ih =>
    obtain ⟨⟨lead, runs, hlead, hapart⟩, rfl⟩ := ih
    cases hc : isDecimalDigit c with
    | false => exact ⟨⟨c :: lead, runs, List.forall_mem_cons.mpr ⟨hc, hlead⟩, hapart⟩, rfl⟩
    | true =>
      -- The digit is the first of the next run if this comes at once, else a run of its own.
      cases lead with
      | nil =>
        cases runs with
        | nil =>
          exact ⟨⟨[], [.single hc [] hlead], List.forall_mem_nil _, .singleton _⟩, rfl⟩
        | cons run runs =>
          refine ⟨⟨[], run.cons hc :: runs, hlead, ?_⟩, rfl⟩
          exact List.isChain_cons.mpr (List.isChain_cons.mp hapart)
      | cons d lead =>
        refine ⟨⟨[], .single hc (d :: lead) hlead :: runs, List.forall_mem_nil _, ?_⟩, rfl⟩
        exact List.isChain_cons.mpr ⟨fun _ _ => List.cons_ne_nil d lead, hapart⟩

end DigitCut

end CatalogSearch.Text
