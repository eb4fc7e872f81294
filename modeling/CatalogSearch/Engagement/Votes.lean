import CatalogSearch.Text.Digit
import CatalogSearch.Vocabulary.Material

/-! # Votes

How many votes each rating got, and what they come to.

* **`Votes`**: the number of votes for each rating;
* **`Votes.add`**: more votes for a rating;
* **`Votes.total`**: all votes;
* **`Votes.meanTenths`**: their mean in tenths, a half rounded up;
* **`Votes.average?`**: the mean with one decimal. -/

namespace CatalogSearch

/-- **The number of votes for each rating.** -/
structure Votes where
  count : Rating → Nat

namespace Votes

/-- No votes. -/
def none : Votes := ⟨fun _ => 0⟩

instance : Inhabited Votes := ⟨none⟩

/-- The votes with `n` more for a rating. -/
def add (v : Votes) (r : Rating) (n : Nat) : Votes :=
  ⟨fun s => if s = r then v.count s + n else v.count s⟩

/-- The votes with one more. -/
def record (v : Votes) (r : Rating) : Votes := v.add r 1

/-- The votes of a list of ratings. -/
def ofList (rs : List Rating) : Votes := rs.foldl record none

/-- **All votes.** -/
def total (v : Votes) : Nat := (Rating.terms.map v.count).foldr (· + ·) 0

/-- The stars of all votes together. -/
def stars (v : Votes) : Nat := (Rating.terms.map fun r => v.count r * r.stars).foldr (· + ·) 0

/-- There are no votes at first. -/
@[simp] theorem total_none : none.total = 0 := rfl

/-- Added votes add to the total. -/
@[simp] theorem total_add (v : Votes) (r : Rating) (n : Nat) : (v.add r n).total = v.total + n := by
  cases r <;> simp [total, add, Rating.terms] <;> omega

/-- Added votes add as many stars each as the rating has. -/
@[simp] theorem stars_add (v : Votes) (r : Rating) (n : Nat) :
    (v.add r n).stars = v.stars + n * r.stars := by
  cases r <;> simp [stars, add, Rating.terms, Rating.stars] <;> omega

/-- Each rating of a list adds one vote for it. -/
theorem count_foldl_record (rs : List Rating) (v : Votes) (r : Rating) :
    (rs.foldl record v).count r = v.count r + rs.count r := by
  induction rs generalizing v with
  | nil => rfl
  | cons s rs ih =>
    rw [List.foldl_cons, ih, List.count_cons]
    by_cases hs : s = r
    · subst hs
      simp [record, add]
      omega
    · have hne : ¬ r = s := fun h => hs h.symm
      simp [record, add, hs, hne]

/-- **A list of ratings has a vote for each occurrence of a rating.** -/
theorem count_ofList (rs : List Rating) (r : Rating) : (ofList rs).count r = rs.count r := by
  rw [ofList, count_foldl_record]
  exact Nat.zero_add _

/-- Each rating of a list adds to the total. -/
theorem total_foldl_record (rs : List Rating) (v : Votes) :
    (rs.foldl record v).total = v.total + rs.length := by
  induction rs generalizing v with
  | nil => rfl
  | cons s rs ih =>
    rw [List.foldl_cons, ih, record, total_add, List.length_cons]
    omega

/-- A list of ratings has as many votes as ratings. -/
theorem total_ofList (rs : List Rating) : (ofList rs).total = rs.length := by
  rw [ofList, total_foldl_record, total_none, Nat.zero_add]

/-- **The mean in tenths of a star**, a half rounded up. -/
def meanTenths (v : Votes) : Nat := (20 * v.stars + v.total) / (2 * v.total)

/-- A number of tenths with its decimal point. -/
def tenthsText (n : Nat) : List Char := Text.natDigits (n / 10) ++ '.' :: Text.natDigits (n % 10)

/-- **The mean with one decimal**, none without votes. -/
def average? (v : Votes) : Option String :=
  if v.total = 0 then Option.none else some (String.ofList (tenthsText v.meanTenths))

end Votes

end CatalogSearch
