import CatalogSearch.Engagement.Votes

/-! # Tallies

Votes are counted in words of 64 bits. What does not fit into a word is no result.

* **`Word.ofNat?`**: the word of a number;
* **`Word.add?`**, **`Word.mul?`**, **`Word.sum?`**: arithmetic of words;
* **`Tally`**: the number of votes for each rating, as words;
* **`Tally.Step`**, **`Tally.perform?`**, **`Tally.after?`**: what is done to a tally;
* **`Tally.total?`**, **`Tally.stars?`**: all votes, and their stars;
* **`Tally.average?`**: their mean with one decimal. -/

namespace CatalogSearch

namespace Word

/-- **The word of a number**, if it fits. -/
def ofNat? (n : Nat) : Option UInt64 := if n < UInt64.size then some (UInt64.ofNat n) else none

/-- The sum of two words. -/
def add? (a b : UInt64) : Option UInt64 := ofNat? (a.toNat + b.toNat)

/-- The product of two words. -/
def mul? (a b : UInt64) : Option UInt64 := ofNat? (a.toNat * b.toNat)

/-- The sum of words, one added after the other. -/
def sum? (ws : List UInt64) : Option UInt64 := ws.foldlM add? 0

/-- A number that fits is the one of its word. -/
theorem ofNat?_eq_some_iff {n : Nat} {w : UInt64} : ofNat? n = some w ↔ w.toNat = n := by
  unfold ofNat?
  constructor
  · intro h
    split at h
    · next hn =>
      cases h
      exact UInt64.toNat_ofNat_of_lt' hn
    · cases h
  · rintro rfl
    rw [if_pos w.toNat_lt, UInt64.ofNat_toNat]

/-- A number below the bound fits. -/
theorem exists_ofNat? {n : Nat} (h : n < UInt64.size) : ∃ w, ofNat? n = some w ∧ w.toNat = n :=
  ⟨UInt64.ofNat n, if_pos h, UInt64.toNat_ofNat_of_lt' h⟩

end Word

/-- **The number of votes for each rating**, as words. -/
structure Tally where
  count : Rating → UInt64

namespace Tally

/-- No votes. -/
def none : Tally := ⟨fun _ => 0⟩

/-- The tally with `n` more votes for a rating. -/
def add? (t : Tally) (r : Rating) (n : UInt64) : Option Tally :=
  (Word.add? (t.count r) n).map fun k => ⟨fun s => if s = r then k else t.count s⟩

/-- **What is done to a tally.** -/
inductive Step where
  /-- One vote is recorded. -/
  | record (r : Rating)
  /-- Several votes are added at once. -/
  | add (r : Rating) (votes : UInt64)
  deriving DecidableEq, Repr

/-- The rating a step is for. -/
def Step.rating : Step → Rating
  | .record r | .add r _ => r

/-- How many votes a step brings. -/
def Step.votes : Step → UInt64
  | .record _ => 1
  | .add _ votes => votes

/-- A tally after a step. -/
def perform? (t : Tally) (s : Step) : Option Tally := t.add? s.rating s.votes

/-- **The tally of some steps.** -/
def after? (steps : List Step) : Option Tally := steps.foldlM perform? none

/-- **All votes.** -/
def total? (t : Tally) : Option UInt64 := Word.sum? (Rating.terms.map t.count)

/-- The stars of all votes together. -/
def stars? (t : Tally) : Option UInt64 := do
  Word.sum? (← Rating.terms.mapM fun r => Word.mul? (t.count r) (UInt64.ofNat r.stars))

/-- The mean in tenths of a star, a half rounded up, of so many votes. -/
def meanTenths? (stars total : UInt64) : Option UInt64 := do
  let doubled ← Word.add? (← Word.mul? stars 20) total
  return doubled / (← Word.mul? 2 total)

/-- **The mean with one decimal**, none without votes. -/
def average? (t : Tally) : Option (Option String) := do
  let total ← t.total?
  if total = 0 then return Option.none
  let tenths ← meanTenths? (← t.stars?) total
  return some (String.ofList (Votes.tenthsText tenths.toNat))

end Tally

end CatalogSearch
