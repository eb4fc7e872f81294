import CatalogSearch.Engagement.Tally
import Mathlib.Algebra.Order.BigOperators.Group.List
import Mathlib.Tactic.Linarith

/-! # The mean of a tally

A tally is kept in words, and what does not fit is no result. As long as a hundred and one times the
votes fit, nothing is lost on the way from the votes to their mean, which is rounded to tenths, a
half up, and lies between one star and five.

* **`Word.sum?_eq_ofNat?`**: a sum of words fits if the sum of their numbers does;
* **`Tally.votesFor`**, **`Tally.allVotes`**, **`Tally.allStars`**: what steps bring;
* **`Tally.exists_perform?`**, **`Tally.exists_foldlM_perform?`**: a step counts its votes, and so
  do all of them;
* **`RoundedMean`**: a mean in tenths, a half rounded up;
* **`Tally.average_of_steps`**: the mean that steps lead to. -/

namespace CatalogSearch

/-! ## Words -/

namespace Word

/-- Adding words one after the other fits if their sum does. -/
theorem foldlM_add?_eq_ofNat? (ws : List UInt64) (acc : UInt64) :
    ws.foldlM add? acc = ofNat? (acc.toNat + (ws.map UInt64.toNat).sum) := by
  induction ws generalizing acc with
  | nil => exact (ofNat?_eq_some_iff.mpr rfl).symm
  | cons w ws ih =>
    rw [List.foldlM_cons, List.map_cons, List.sum_cons, ← Nat.add_assoc]
    by_cases hfits : acc.toNat + w.toNat < UInt64.size
    · obtain ⟨next, hnext, hval⟩ := exists_ofNat? hfits
      have hadd : add? acc w = some next := hnext
      rw [hadd, Option.bind_eq_bind, Option.bind_some, ih, hval]
    · -- What does not fit does not fit with more words either.
      have hadd : add? acc w = none := if_neg hfits
      have hmore : ofNat? (acc.toNat + w.toNat + (ws.map UInt64.toNat).sum) = none :=
        if_neg fun h => hfits (by omega)
      rw [hadd, hmore]
      rfl

/-- **A sum of words fits if the sum of their numbers does.** -/
theorem sum?_eq_ofNat? (ws : List UInt64) : sum? ws = ofNat? (ws.map UInt64.toNat).sum := by
  rw [sum?, foldlM_add?_eq_ofNat?]
  exact congrArg ofNat? (Nat.zero_add _)

/-- Words that are made of the elements of a list. -/
theorem exists_mapM {α : Type} {l : List α} {f : α → Option UInt64} {n : α → Nat}
    (h : ∀ a ∈ l, ∃ w, f a = some w ∧ w.toNat = n a) :
    ∃ ws, l.mapM f = some ws ∧ ws.map UInt64.toNat = l.map n := by
  induction l with
  | nil => exact ⟨[], rfl, rfl⟩
  | cons a l ih =>
    obtain ⟨w, hw, hval⟩ := h a List.mem_cons_self
    obtain ⟨ws, hws, hvals⟩ := ih fun b hb => h b (List.mem_cons_of_mem a hb)
    refine ⟨w :: ws, ?_, ?_⟩
    · rw [List.mapM_cons, hw, hws]
      rfl
    · rw [List.map_cons, List.map_cons, hval, hvals]

end Word

namespace Tally

/-! ## What steps bring -/

/-- How many votes a step brings for a rating. -/
def Step.votesFor (s : Step) (r : Rating) : Nat := if s.rating = r then s.votes.toNat else 0

/-- **How many votes steps bring for a rating.** -/
def votesFor (steps : List Step) (r : Rating) : Nat := (steps.map (·.votesFor r)).sum

/-- **All votes that steps bring.** -/
def allVotes (steps : List Step) : Nat := (steps.map (·.votes.toNat)).sum

/-- **The stars of all votes that steps bring.** -/
def allStars (steps : List Step) : Nat := (steps.map fun s => s.votes.toNat * s.rating.stars).sum

variable {steps : List Step}

@[simp] theorem votesFor_cons (s : Step) (steps : List Step) (r : Rating) :
    votesFor (s :: steps) r = s.votesFor r + votesFor steps r := by
  rw [votesFor, List.map_cons, List.sum_cons, votesFor]

@[simp] theorem allVotes_cons (s : Step) (steps : List Step) :
    allVotes (s :: steps) = s.votes.toNat + allVotes steps := by
  rw [allVotes, List.map_cons, List.sum_cons, allVotes]

@[simp] theorem allStars_cons (s : Step) (steps : List Step) :
    allStars (s :: steps) = s.votes.toNat * s.rating.stars + allStars steps := by
  rw [allStars, List.map_cons, List.sum_cons, allStars]

/-- The votes of a step are all for one rating. -/
theorem sum_stepVotesFor (s : Step) (weight : Rating → Nat) :
    (Rating.terms.map fun r => s.votesFor r * weight r).sum = s.votes.toNat * weight s.rating := by
  unfold Step.votesFor
  cases s.rating <;> simp [Rating.terms]

/-- The votes of steps, each with a weight of its rating. -/
theorem sum_votesFor (steps : List Step) (weight : Rating → Nat) :
    (Rating.terms.map fun r => votesFor steps r * weight r).sum =
      (steps.map fun s => s.votes.toNat * weight s.rating).sum := by
  induction steps with
  | nil => simp [votesFor]
  | cons s steps ih =>
    simp only [votesFor_cons, Nat.add_mul, List.sum_map_add, List.map_cons, List.sum_cons]
    rw [ih, sum_stepVotesFor]

/-- All votes are those for the ratings. -/
theorem sum_votesFor_eq_allVotes (steps : List Step) :
    (Rating.terms.map (votesFor steps)).sum = allVotes steps := by
  simpa [allVotes] using sum_votesFor steps fun _ => 1

/-- All stars are those of the votes for the ratings. -/
theorem sum_votesFor_eq_allStars (steps : List Step) :
    (Rating.terms.map fun r => votesFor steps r * r.stars).sum = allStars steps :=
  sum_votesFor steps Rating.stars

/-- The votes for one rating are some of all votes. -/
theorem votesFor_le_allVotes (steps : List Step) (r : Rating) :
    votesFor steps r ≤ allVotes steps := by
  rw [← sum_votesFor_eq_allVotes]
  exact List.single_le_sum (fun _ _ => Nat.zero_le _) _ (List.mem_map_of_mem (Rating.mem_terms r))

/-- Each vote gives one to five stars. -/
theorem allStars_bounds (steps : List Step) :
    allVotes steps ≤ allStars steps ∧ allStars steps ≤ 5 * allVotes steps := by
  induction steps with
  | nil => exact ⟨Nat.le_refl 0, Nat.zero_le _⟩
  | cons s steps ih =>
    obtain ⟨hlow, hhigh⟩ := s.rating.stars_pos_and_le
    have hleast := Nat.mul_le_mul_left s.votes.toNat hlow
    have hmost := Nat.mul_le_mul_left s.votes.toNat hhigh
    rw [allVotes_cons, allStars_cons]
    omega

/-! ## Counting -/

/-- **A tally counts steps**: for each rating it has the votes that they bring. -/
def Counts (t : Tally) (steps : List Step) : Prop :=
  ∀ r, (t.count r).toNat = votesFor steps r

/-- Tallies of the same votes are the same. -/
theorem Counts.unique {t u : Tally} {others : List Step} (ht : t.Counts steps)
    (hu : u.Counts others) (hsame : ∀ r, votesFor others r = votesFor steps r) : u = t := by
  obtain ⟨count⟩ := t
  obtain ⟨count'⟩ := u
  refine congrArg Tally.mk (funext fun r => UInt64.toNat_inj.mp ?_)
  exact (hu r).trans ((hsame r).trans (ht r).symm)

/-- **A step counts its votes**, if they fit. -/
theorem exists_perform? {t : Tally} {s : Step}
    (h : (t.count s.rating).toNat + s.votes.toNat < UInt64.size) :
    ∃ u, t.perform? s = some u ∧ ∀ r, (u.count r).toNat = (t.count r).toNat + s.votesFor r := by
  obtain ⟨k, hk, hval⟩ := Word.exists_ofNat? h
  have hadd : Word.add? (t.count s.rating) s.votes = some k := hk
  refine ⟨⟨fun r => if r = s.rating then k else t.count r⟩, ?_, fun r => ?_⟩
  · rw [perform?, add?, hadd]
    rfl
  · by_cases hr : r = s.rating
    · subst hr
      simp [Step.votesFor, hval]
    · have hne : ¬ s.rating = r := fun h => hr h.symm
      simp [Step.votesFor, hr, hne]

/-- **All steps count their votes**, if they fit. -/
theorem exists_foldlM_perform? {t : Tally} (steps : List Step)
    (h : ∀ r, (t.count r).toNat + votesFor steps r < UInt64.size) :
    ∃ u, steps.foldlM perform? t = some u ∧
      ∀ r, (u.count r).toNat = (t.count r).toNat + votesFor steps r := by
  induction steps generalizing t with
  | nil => exact ⟨t, rfl, fun r => (Nat.add_zero _).symm⟩
  | cons s steps ih =>
    simp only [votesFor_cons] at h
    have hstep : (t.count s.rating).toNat + s.votes.toNat < UInt64.size := by
      have hrating := h s.rating
      rw [Step.votesFor, if_pos rfl] at hrating
      omega
    obtain ⟨next, hnext, hcount⟩ := exists_perform? hstep
    have hrest : ∀ r, (next.count r).toNat + votesFor steps r < UInt64.size := by
      intro r
      rw [hcount, Nat.add_assoc]
      exact h r
    obtain ⟨u, hu, hall⟩ := ih hrest
    refine ⟨u, ?_, fun r => ?_⟩
    · rw [List.foldlM_cons, hnext, Option.bind_eq_bind, Option.bind_some, hu]
    · rw [hall, hcount, votesFor_cons, Nat.add_assoc]

/-- **Steps lead to a tally that counts them**, if their votes fit. -/
theorem exists_after? (h : allVotes steps < UInt64.size) :
    ∃ t, after? steps = some t ∧ t.Counts steps := by
  have hfits : ∀ r, (none.count r).toNat + votesFor steps r < UInt64.size := by
    intro r
    have hle := votesFor_le_allVotes steps r
    have hzero : (none.count r).toNat = 0 := rfl
    omega
  obtain ⟨t, ht, hcount⟩ := exists_foldlM_perform? steps hfits
  exact ⟨t, ht, fun r => (hcount r).trans (Nat.zero_add _)⟩

/-! ## Totals -/

variable {t : Tally}

/-- The total of a tally is all votes that it counts. -/
theorem Counts.exists_total? (ht : t.Counts steps) (h : allVotes steps < UInt64.size) :
    ∃ w, t.total? = some w ∧ w.toNat = allVotes steps := by
  have hsum : ((Rating.terms.map t.count).map UInt64.toNat).sum = allVotes steps := by
    rw [List.map_map, ← sum_votesFor_eq_allVotes]
    exact congrArg List.sum (List.map_congr_left fun r _ => ht r)
  obtain ⟨w, hw, hval⟩ := Word.exists_ofNat? h
  refine ⟨w, ?_, hval⟩
  rw [total?, Word.sum?_eq_ofNat?, hsum, hw]

/-- The stars of a tally are those of all votes that it counts. -/
theorem Counts.exists_stars? (ht : t.Counts steps) (h : 5 * allVotes steps < UInt64.size) :
    ∃ w, t.stars? = some w ∧ w.toNat = allStars steps := by
  have hproduct : ∀ r ∈ Rating.terms, ∃ w,
      Word.mul? (t.count r) (UInt64.ofNat r.stars) = some w ∧
        w.toNat = votesFor steps r * r.stars := by
    intro r _
    have hword : (UInt64.ofNat r.stars).toNat = r.stars := by cases r <;> rfl
    rw [Word.mul?, hword, ht r]
    refine Word.exists_ofNat? (Nat.lt_of_le_of_lt ?_ h)
    rw [Nat.mul_comm]
    exact Nat.mul_le_mul r.stars_pos_and_le.2 (votesFor_le_allVotes steps r)
  obtain ⟨ws, hws, hvals⟩ := Word.exists_mapM hproduct
  obtain ⟨w, hw, hval⟩ := Word.exists_ofNat? (Nat.lt_of_le_of_lt (allStars_bounds steps).2 h)
  refine ⟨w, ?_, hval⟩
  rw [stars?, hws, Option.bind_eq_bind, Option.bind_some, Word.sum?_eq_ofNat?, hvals,
    sum_votesFor_eq_allStars, hw]

end Tally

/-! ## Means -/

/-- **A mean in tenths, a half rounded up**: `n` tenths for so many stars of so many votes. The mean
itself is at least `n` tenths less half a tenth, and less than `n` tenths and half a tenth. -/
def RoundedMean (n : Int) (stars total : Nat) : Prop :=
  2 * n * total - total ≤ 20 * stars ∧ 20 * stars < 2 * n * total + total

variable {stars total : Nat}

/-- There is but one rounded mean. -/
theorem RoundedMean.unique {m n : Int} (hm : RoundedMean m stars total)
    (hn : RoundedMean n stars total) : m = n := by
  obtain ⟨hmlow, hmhigh⟩ := hm
  obtain ⟨hnlow, hnhigh⟩ := hn
  have htotal : (0 : Int) ≤ total := Int.natCast_nonneg total
  rcases Int.lt_trichotomy m n with hlt | heq | hgt
  · have hstep : (m + 1) * (total : Int) ≤ n * total := Int.mul_le_mul_of_nonneg_right hlt htotal
    linarith
  · exact heq
  · have hstep : (n + 1) * (total : Int) ≤ m * total := Int.mul_le_mul_of_nonneg_right hgt htotal
    linarith

/-- **Dividing with half a tenth added** gives the rounded mean. -/
theorem roundedMean_div (h : 0 < total) :
    RoundedMean ((20 * stars + total) / (2 * total) : Nat) stars total := by
  have hdiv := Nat.div_add_mod (20 * stars + total) (2 * total)
  have hmod := Nat.mod_lt (20 * stars + total) (Nat.mul_pos Nat.two_pos h)
  generalize (20 * stars + total) / (2 * total) = n at hdiv ⊢
  generalize (20 * stars + total) % (2 * total) = rest at hdiv hmod
  have hsum : 2 * (n : Int) * total + rest = 20 * stars + total := by
    rw [Nat.mul_right_comm] at hdiv
    exact_mod_cast hdiv
  have hrest : (rest : Int) < 2 * total := by exact_mod_cast hmod
  have hrest' : (0 : Int) ≤ rest := Int.natCast_nonneg rest
  constructor
  · linarith
  · linarith

/-- With one to five stars for each vote, a rounded mean lies between one star and five. -/
theorem RoundedMean.bounds {n : Int} (hmean : RoundedMean n stars total) (htotal : 0 < total)
    (hlow : total ≤ stars) (hhigh : stars ≤ 5 * total) : 10 ≤ n ∧ n ≤ 50 := by
  obtain ⟨hbelow, habove⟩ := hmean
  have hpos : (0 : Int) < total := by exact_mod_cast htotal
  have hlow' : (total : Int) ≤ stars := by exact_mod_cast hlow
  have hhigh' : (stars : Int) ≤ 5 * total := by exact_mod_cast hhigh
  constructor
  · by_contra hless
    have hstep : (n + 1) * (total : Int) ≤ 10 * total :=
      Int.mul_le_mul_of_nonneg_right (Int.not_le.mp hless) hpos.le
    linarith
  · by_contra hmore
    have hstep : 51 * (total : Int) ≤ n * total :=
      Int.mul_le_mul_of_nonneg_right (Int.not_le.mp hmore) hpos.le
    linarith

/-! ## The mean of a tally -/

/-- **A text tells a mean**: it is a number of stars, a point and a number of tenths, which make the
rounded mean, the only one there is, between one star and five. -/
def TellsMean (text : String) (stars total : Nat) : Prop :=
  ∃ whole tenths : Nat, tenths < 10 ∧ text = toString whole ++ "." ++ toString tenths ∧
    RoundedMean (10 * whole + tenths : Nat) stars total ∧
    (∀ n, RoundedMean n stars total → n = (10 * whole + tenths : Nat)) ∧
    10 ≤ 10 * whole + tenths ∧ 10 * whole + tenths ≤ 50

/-- A number of tenths is written with its point. -/
theorem ofList_tenthsText (n : Nat) :
    String.ofList (Votes.tenthsText n) = toString (n / 10) ++ "." ++ toString (n % 10) := by
  apply String.toList_inj.mp
  simp [Votes.tenthsText, Text.natDigits, String.toList_append, Nat.toString_eq_repr, Nat.repr]

namespace Tally

variable {steps : List Step} {t : Tally}

/-- The mean of words is that of their numbers, if nothing on the way to it is too large. -/
theorem exists_meanTenths? {stars total : UInt64}
    (h : stars.toNat * 20 + total.toNat < UInt64.size) (htotal : 2 * total.toNat < UInt64.size) :
    ∃ w, meanTenths? stars total = some w ∧
      w.toNat = (20 * stars.toNat + total.toNat) / (2 * total.toNat) := by
  obtain ⟨product, hproduct, hval⟩ :=
    Word.exists_ofNat? (Nat.lt_of_le_of_lt (Nat.le_add_right _ _) h)
  have hmul : Word.mul? stars 20 = some product := hproduct
  rw [← hval] at h
  obtain ⟨sum, hsum, hval'⟩ := Word.exists_ofNat? h
  have hadd : Word.add? product total = some sum := hsum
  obtain ⟨double, hdouble, hval''⟩ := Word.exists_ofNat? htotal
  have hmul' : Word.mul? 2 total = some double := hdouble
  refine ⟨sum / double, ?_, ?_⟩
  · simp only [meanTenths?, hmul, hadd, hmul', Option.bind_eq_bind, Option.bind_some,
      Option.pure_def]
  · rw [UInt64.toNat_div, hval', hval'', hval, Nat.mul_comm stars.toNat 20]

/-- Without votes there is no mean. -/
theorem Counts.average?_of_noVotes (ht : t.Counts steps) (h : allVotes steps = 0) :
    t.average? = some Option.none := by
  obtain ⟨total, htotal, hval⟩ := ht.exists_total? (h ▸ by decide)
  have hzero : total = 0 := UInt64.toNat_inj.mp (hval.trans h)
  rw [average?, htotal, Option.bind_eq_bind, Option.bind_some, if_pos hzero]
  rfl

/-- **The mean of the votes that a tally counts.** -/
theorem Counts.exists_average? (ht : t.Counts steps) (h : 101 * allVotes steps < UInt64.size)
    (hvotes : allVotes steps ≠ 0) :
    ∃ label, t.average? = some (some label) ∧
      TellsMean label (allStars steps) (allVotes steps) := by
  obtain ⟨hlow, hhigh⟩ := allStars_bounds steps
  obtain ⟨total, htotal, htotal'⟩ := ht.exists_total? (by omega)
  obtain ⟨stars, hstars, hstars'⟩ := ht.exists_stars? (by omega)
  obtain ⟨tenths, htenths, htenths'⟩ :=
    @exists_meanTenths? stars total (by omega) (by omega)
  have hne : ¬ total = 0 := by
    rintro rfl
    exact hvotes htotal'.symm
  refine ⟨String.ofList (Votes.tenthsText tenths.toNat), ?_, ?_⟩
  · simp only [average?, htotal, hne, hstars, htenths, Option.bind_eq_bind, Option.bind_some,
      Option.pure_def, if_false]
  · have hmean : RoundedMean (tenths.toNat : Nat) (allStars steps) (allVotes steps) := by
      rw [htenths', hstars', htotal']
      exact roundedMean_div (Nat.pos_of_ne_zero hvotes)
    have hbounds := hmean.bounds (Nat.pos_of_ne_zero hvotes) hlow hhigh
    rw [← Nat.div_add_mod tenths.toNat 10] at hmean hbounds
    refine ⟨tenths.toNat / 10, tenths.toNat % 10, Nat.mod_lt _ (by decide), ofList_tenthsText _,
      hmean, fun n hn => hn.unique hmean, ?_, ?_⟩
    · exact_mod_cast hbounds.1
    · exact_mod_cast hbounds.2

/-- **The mean that steps lead to.** If a hundred and one times the votes of some steps fit into a
word, nothing is too large on the way: there is a tally, its total is the number of votes, and it
has a mean if there are votes, which is told as the rounded mean of their stars. Only the number of
votes for each rating counts, not the steps that brought them, nor their order. -/
theorem average_of_steps (steps : List Step) (h : 101 * allVotes steps < UInt64.size) :
    ∃ t, after? steps = some t ∧
      (∃ w, t.total? = some w ∧ w.toNat = allVotes steps) ∧
      (t.average? = some Option.none ↔ allVotes steps = 0) ∧
      (allVotes steps ≠ 0 → ∃ label, t.average? = some (some label) ∧
        TellsMean label (allStars steps) (allVotes steps)) ∧
      ∀ others, (∀ r, votesFor others r = votesFor steps r) → after? others = some t := by
  obtain ⟨t, hafter, ht⟩ := @exists_after? steps (by omega)
  refine ⟨t, hafter, ht.exists_total? (by omega), ?_, ht.exists_average? h, ?_⟩
  · constructor
    · intro hnone
      by_contra hvotes
      obtain ⟨label, hlabel, -⟩ := ht.exists_average? h hvotes
      cases hnone.symm.trans hlabel
    · exact ht.average?_of_noVotes
  · intro others hsame
    have hall : allVotes others = allVotes steps := by
      rw [← sum_votesFor_eq_allVotes, ← sum_votesFor_eq_allVotes]
      exact congrArg List.sum (List.map_congr_left fun r _ => hsame r)
    obtain ⟨u, hafter', hu⟩ := @exists_after? others (by omega)
    rw [hafter', ht.unique hu hsame]

/-- Seventeen stars of four votes are four and a quarter, which is rounded up; adding the votes in
another order and one by one makes no difference. -/
theorem average_of_steps_quarter :
    101 * allVotes [.add .five 1, .add .four 3] < UInt64.size ∧
      ∃ t, after? [.add .five 1, .add .four 3] = some t ∧
        (∃ w, t.total? = some w ∧ w.toNat = 4) ∧
        (∃ label, t.average? = some (some label) ∧ TellsMean label 17 4) ∧
        after? [.record .four, .add .four 2, .record .five] = some t := by
  have hfits : 101 * allVotes [.add .five 1, .add .four 3] < UInt64.size := by decide
  obtain ⟨t, hafter, htotal, -, hmean, hothers⟩ := average_of_steps _ hfits
  refine ⟨hfits, t, hafter, htotal, hmean (by decide), hothers _ ?_⟩
  intro r
  cases r <;> decide

end Tally

end CatalogSearch
