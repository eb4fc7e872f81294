import CatalogSearch.Engagement.Basic
import Mathlib.Data.List.DropRight
import Mathlib.Data.Set.Card

/-! # What users have done

Favorites and ratings are what a history of deeds has left behind. Each user and each resource has a
history of its own: what others did, or did elsewhere, makes no difference.

* **`Engagement.Deed`**, **`Engagement.after`**: deeds, and what a history of them leaves behind;
* **`Engagement.lastChange?`**, **`Engagement.latestRating?`**: the last word of a user on a
  resource;
* **`Engagement.firstAdded`**: when a favorite came to be one;
* **`Engagement.Follows`**: what a history should leave behind;
* **`Engagement.follows_after`**: it does. -/

namespace CatalogSearch.Engagement

/-! ## Histories -/

/-- **What a user does.** -/
inductive Deed where
  | addFavorite (user : String) (key : ItemKey)
  | removeFavorite (user : String) (key : ItemKey)
  | rate (user : String) (key : ItemKey) (rating : Rating)
  deriving DecidableEq, Repr

/-- Favorites and ratings after one more deed. -/
def perform (e : Engagement) : Deed → Engagement
  | .addFavorite user key => e.addFavorite user key
  | .removeFavorite user key => e.removeFavorite user key
  | .rate user key rating => e.rate user key rating

/-- **What a history leaves behind**, the oldest deed first. -/
def after (h : List Deed) : Engagement := h.foldl perform {}

/-- What a deed makes of a resource for a user: a favorite, or none. -/
def Deed.change? (user : String) (key : ItemKey) : Deed → Option Bool
  | .addFavorite u k => if u = user ∧ k = key then some true else none
  | .removeFavorite u k => if u = user ∧ k = key then some false else none
  | .rate .. => none

/-- The rating that a deed gives a resource for a user. -/
def Deed.rating? (user : String) (key : ItemKey) : Deed → Option Rating
  | .rate u k rating => if u = user ∧ k = key then some rating else none
  | _ => none

/-- **What a user last made of a resource**: a favorite, or none; nothing if it never was one. -/
def lastChange? (h : List Deed) (user : String) (key : ItemKey) : Option Bool :=
  (h.filterMap (Deed.change? user key)).getLast?

/-- **The rating that a user last gave a resource.** -/
def latestRating? (h : List Deed) (user : String) (key : ItemKey) : Option Rating :=
  (h.filterMap (Deed.rating? user key)).getLast?

/-- **The votes on a resource**: one of each user who has rated it, for the latest rating. -/
noncomputable def latestVotes (h : List Deed) (key : ItemKey) : Votes :=
  ⟨fun rating => {user | latestRating? h user key = some rating}.ncard⟩

/-- The deeds since a user last removed a favorite, all of them if that never happened. -/
def sinceRemoval (h : List Deed) (user : String) (key : ItemKey) : List Deed :=
  h.rtakeWhile (· ≠ .removeFavorite user key)

/-- **When a favorite came to be one**: the place in a history where it is first added since it was
last removed. -/
def firstAdded (h : List Deed) (user : String) (key : ItemKey) : Nat :=
  h.length - (sinceRemoval h user key).length +
    (sinceRemoval h user key).idxOf (.addFavorite user key)

/-- **What a history should leave behind.** -/
structure Follows (e : Engagement) (h : List Deed) : Prop where
  /-- A resource is a favorite if the user last made it one. -/
  isFavorite_iff : ∀ user key, e.isFavorite user key = true ↔ lastChange? h user key = some true
  /-- These are the favorites of a user. -/
  mem_favorites_iff : ∀ user key, key ∈ e.favorites user ↔ lastChange? h user key = some true
  /-- Each is listed once. -/
  nodup_favorites : ∀ user, (e.favorites user).Nodup
  /-- They come in the order in which they came to be favorites. -/
  favorites_ordered : ∀ user,
    (e.favorites user).Pairwise fun a b => firstAdded h user a < firstAdded h user b
  /-- A user has rated what the user has given a rating. -/
  hasRated_iff : ∀ user key, e.hasRated user key = true ↔ ∃ rating, .rate user key rating ∈ h
  /-- A rating has the votes of all users whose latest it is. -/
  votes_eq : ∀ key, e.votes key = latestVotes h key
  /-- There are as many votes as users who have rated the resource. -/
  total_votes : ∀ key, (e.votes key).total = {user | ∃ rating, .rate user key rating ∈ h}.ncard

/-! ## One deed more -/

/-- Nothing is left behind at first. -/
@[simp] theorem after_nil : after [] = {} := rfl

/-- A history goes on with a deed. -/
@[simp] theorem after_concat (h : List Deed) (d : Deed) :
    after (h ++ [d]) = (after h).perform d := by
  rw [after, List.foldl_append]
  rfl

/-- The last deed has the last word, if it has any. -/
theorem lastChange?_concat (h : List Deed) (d : Deed) (user : String) (key : ItemKey) :
    lastChange? (h ++ [d]) user key = (d.change? user key).or (lastChange? h user key) := by
  rw [lastChange?, List.filterMap_append, List.getLast?_append]
  cases hd : d.change? user key with
  | none => simp [hd, lastChange?]
  | some b => simp [hd]

/-- The last deed is the latest rating, if it is one. -/
theorem latestRating?_concat (h : List Deed) (d : Deed) (user : String) (key : ItemKey) :
    latestRating? (h ++ [d]) user key = (d.rating? user key).or (latestRating? h user key) := by
  rw [latestRating?, List.filterMap_append, List.getLast?_append]
  cases hd : d.rating? user key with
  | none => simp [hd, latestRating?]
  | some r => simp [hd]

/-! ## Favorites -/

/-- A pair is another one if its parts are. -/
theorem mk_eq_mk_iff {user u : String} {key k : ItemKey} :
    (user, key) = (u, k) ↔ u = user ∧ k = key := by
  rw [Prod.mk.injEq, eq_comm, @eq_comm _ key]

/-- What is added is a favorite, and the rest as before. -/
theorem isFavorite_addFavorite_iff {e : Engagement} {user u : String} {key k : ItemKey} :
    (e.addFavorite u k).isFavorite user key = true ↔
      (u = user ∧ k = key) ∨ e.isFavorite user key = true := by
  unfold addFavorite isFavorite
  by_cases hmem : (u, k) ∈ e.kept
  · rw [if_pos hmem]
    have hkept : u = user ∧ k = key → (user, key) ∈ e.kept := by
      rintro ⟨rfl, rfl⟩
      exact hmem
    simpa using hkept
  · rw [if_neg hmem]
    simp only [List.mem_append, List.mem_singleton, decide_eq_true_eq, mk_eq_mk_iff]
    exact or_comm

/-- What is removed is no favorite, and the rest as before. -/
theorem isFavorite_removeFavorite_iff {e : Engagement} {user u : String} {key k : ItemKey} :
    (e.removeFavorite u k).isFavorite user key = true ↔
      ¬ (u = user ∧ k = key) ∧ e.isFavorite user key = true := by
  unfold removeFavorite isFavorite
  simp only [List.mem_filter, decide_eq_true_eq, ne_eq, mk_eq_mk_iff]
  exact and_comm

/-- What a deed makes of a resource is known from the deed, and else from before. -/
theorem isFavorite_perform_iff {e : Engagement} {d : Deed} {user : String} {key : ItemKey} :
    (e.perform d).isFavorite user key = true ↔
      (d.change? user key).getD (e.isFavorite user key) = true := by
  cases d with
  | addFavorite u k =>
    rw [perform, isFavorite_addFavorite_iff, Deed.change?]
    by_cases heq : u = user ∧ k = key
    · simp [heq]
    · simp [heq]
  | removeFavorite u k =>
    rw [perform, isFavorite_removeFavorite_iff, Deed.change?]
    by_cases heq : u = user ∧ k = key
    · simp [heq]
    · simp [heq]
  | rate u k rating => exact Iff.rfl

/-- **A resource is a favorite if the user last made it one.** -/
theorem isFavorite_after_iff (h : List Deed) (user : String) (key : ItemKey) :
    (after h).isFavorite user key = true ↔ lastChange? h user key = some true := by
  induction h using List.reverseRecOn with
  | nil => simp [isFavorite, lastChange?]
  | append_singleton h d ih =>
    rw [after_concat, isFavorite_perform_iff, lastChange?_concat]
    cases hd : d.change? user key with
    | none => simpa using ih
    | some b => simp

/-- What is kept of a user and a resource is that it is a favorite. -/
theorem mem_kept_after_iff {h : List Deed} {p : String × ItemKey} :
    p ∈ (after h).kept ↔ lastChange? h p.1 p.2 = some true := by
  rw [← isFavorite_after_iff, isFavorite, decide_eq_true_eq]

/-! ## The order of favorites -/

section Order

variable {h : List Deed} {d : Deed} {user : String} {key : ItemKey}

/-- A removal leaves nothing since. -/
theorem sinceRemoval_concat_self (h : List Deed) (user : String) (key : ItemKey) :
    sinceRemoval (h ++ [.removeFavorite user key]) user key = [] :=
  List.rtakeWhile_concat_neg _ _ _ (by simp)

/-- Any other deed has happened since the last removal. -/
theorem sinceRemoval_concat_of_ne (hd : d ≠ .removeFavorite user key) :
    sinceRemoval (h ++ [d]) user key = sinceRemoval h user key ++ [d] :=
  List.rtakeWhile_concat_pos _ _ _ (by simpa using hd)

/-- What has happened since the last removal is part of the history. -/
theorem length_sinceRemoval_le (h : List Deed) (user : String) (key : ItemKey) :
    (sinceRemoval h user key).length ≤ h.length :=
  (List.rtakeWhile_suffix _ _).length_le

/-- A deed that neither adds nor removes a favorite makes nothing of it. -/
theorem change?_of_ne (hadd : d ≠ .addFavorite user key) (hremove : d ≠ .removeFavorite user key) :
    d.change? user key = none := by
  cases d with
  | addFavorite u k =>
    refine if_neg ?_
    rintro ⟨rfl, rfl⟩
    exact hadd rfl
  | removeFavorite u k =>
    refine if_neg ?_
    rintro ⟨rfl, rfl⟩
    exact hremove rfl
  | rate u k rating => rfl

/-- A favorite has been added since it was last removed. -/
theorem mem_sinceRemoval_iff :
    .addFavorite user key ∈ sinceRemoval h user key ↔ lastChange? h user key = some true := by
  induction h using List.reverseRecOn with
  | nil => simp [sinceRemoval, lastChange?]
  | append_singleton h d ih =>
    rw [lastChange?_concat]
    by_cases hremove : d = .removeFavorite user key
    · subst hremove
      rw [sinceRemoval_concat_self]
      simp [Deed.change?]
    · rw [sinceRemoval_concat_of_ne hremove, List.mem_append, ih, List.mem_singleton]
      by_cases hadd : d = .addFavorite user key
      · subst hadd
        simp [Deed.change?]
      · have hne : ¬ Deed.addFavorite user key = d := fun heq => hadd heq.symm
        simp [change?_of_ne hadd hremove, hne]

/-- A favorite came to be one within the history. -/
theorem firstAdded_lt (hfavorite : lastChange? h user key = some true) :
    firstAdded h user key < h.length := by
  have hmem := List.idxOf_lt_length_iff.mpr (mem_sinceRemoval_iff.mpr hfavorite)
  have hle := length_sinceRemoval_le h user key
  unfold firstAdded
  omega

/-- A favorite that stays one came to be one when it did. -/
theorem firstAdded_concat (hfavorite : lastChange? h user key = some true)
    (hd : d ≠ .removeFavorite user key) :
    firstAdded (h ++ [d]) user key = firstAdded h user key := by
  have hle := length_sinceRemoval_le h user key
  unfold firstAdded
  rw [sinceRemoval_concat_of_ne hd, List.idxOf_append_of_mem (mem_sinceRemoval_iff.mpr hfavorite),
    List.length_append, List.length_append]
  omega

/-- What has been no favorite comes to be one when it is added. -/
theorem firstAdded_concat_self (hnone : lastChange? h user key ≠ some true) :
    firstAdded (h ++ [.addFavorite user key]) user key = h.length := by
  have hle := length_sinceRemoval_le h user key
  have hmem : .addFavorite user key ∉ sinceRemoval h user key :=
    fun hmem => hnone (mem_sinceRemoval_iff.mp hmem)
  unfold firstAdded
  rw [sinceRemoval_concat_of_ne (by simp), List.idxOf_append_of_notMem hmem, List.length_append,
    List.length_append]
  simp
  omega

/-- A deed adds a favorite behind all others, or leaves some of them. -/
theorem kept_perform (e : Engagement) (d : Deed) :
    (e.perform d).kept.Sublist e.kept ∨
      ∃ user key, d = .addFavorite user key ∧ (user, key) ∉ e.kept ∧
        (e.perform d).kept = e.kept ++ [(user, key)] := by
  cases d with
  | addFavorite user key =>
    by_cases hmem : (user, key) ∈ e.kept
    · refine Or.inl ?_
      rw [perform, addFavorite, if_pos hmem]
    · refine Or.inr ⟨user, key, rfl, hmem, ?_⟩
      rw [perform, addFavorite, if_neg hmem]
  | removeFavorite user key => exact Or.inl List.filter_sublist
  | rate user key rating => exact Or.inl (List.Sublist.refl _)

/-- A favorite that is kept came to be one when it did. -/
theorem firstAdded_concat_of_mem {p : String × ItemKey} (hbefore : p ∈ (after h).kept)
    (hafter : p ∈ (after (h ++ [d])).kept) :
    firstAdded (h ++ [d]) p.1 p.2 = firstAdded h p.1 p.2 := by
  refine firstAdded_concat (mem_kept_after_iff.mp hbefore) ?_
  rintro rfl
  rw [mem_kept_after_iff, lastChange?_concat] at hafter
  simp [Deed.change?] at hafter

/-- **Favorites are kept in the order in which they came to be favorites.** -/
theorem pairwise_kept_after (h : List Deed) :
    (after h).kept.Pairwise fun p q => firstAdded h p.1 p.2 < firstAdded h q.1 q.2 := by
  induction h using List.reverseRecOn with
  | nil => exact List.Pairwise.nil
  | append_singleton h d ih =>
    have hstep := kept_perform (after h) d
    rw [← after_concat] at hstep
    rcases hstep with hsublist | ⟨user, key, rfl, hnew, hkept⟩
    · refine (ih.sublist hsublist).imp_of_mem ?_
      intro p q hp hq hlt
      rwa [firstAdded_concat_of_mem (hsublist.subset hp) hp,
        firstAdded_concat_of_mem (hsublist.subset hq) hq]
    · have hsame : ∀ p ∈ (after h).kept,
          firstAdded (h ++ [.addFavorite user key]) p.1 p.2 = firstAdded h p.1 p.2 := by
        intro p hp
        refine firstAdded_concat_of_mem hp ?_
        rw [hkept]
        exact List.mem_append_left _ hp
      rw [hkept, List.pairwise_append]
      refine ⟨ih.imp_of_mem ?_, List.pairwise_singleton _ _, ?_⟩
      · intro p q hp hq hlt
        rwa [hsame p hp, hsame q hq]
      · -- The new one is the last of all.
        intro p hp q hq
        rw [List.mem_singleton] at hq
        subst hq
        have hnone : lastChange? h user key ≠ some true := fun hlast =>
          hnew (mem_kept_after_iff.mpr hlast)
        rw [hsame p hp, firstAdded_concat_self hnone]
        exact firstAdded_lt (mem_kept_after_iff.mp hp)

/-- The favorites of a user come in the order in which they came to be favorites. -/
theorem pairwise_favorites_after (h : List Deed) (user : String) :
    ((after h).favorites user).Pairwise fun a b => firstAdded h user a < firstAdded h user b := by
  rw [favorites, List.pairwise_map]
  refine ((pairwise_kept_after h).filter _).imp_of_mem ?_
  intro p q hp hq hlt
  have hpuser : p.1 = user := by simpa using (List.mem_filter.mp hp).2
  have hquser : q.1 = user := by simpa using (List.mem_filter.mp hq).2
  rwa [hpuser, hquser] at hlt

end Order

/-! ## Votes -/

section Votes

/-- Favorites have no part in votes. -/
theorem votesCast_addFavorite (e : Engagement) (user : String) (key : ItemKey) :
    (e.addFavorite user key).votesCast = e.votesCast := by
  unfold addFavorite
  split
  · rfl
  · rfl

/-- A vote on a resource stands beside those of other users and on other resources. -/
theorem mem_votesCast_rate_iff {e : Engagement} {v : Vote} {user : String} {key : ItemKey}
    {rating : Rating} :
    v ∈ (e.rate user key rating).votesCast ↔
      (v ∈ e.votesCast ∧ ¬ (v.user = user ∧ v.key = key)) ∨ v = ⟨user, key, rating⟩ := by
  simp [rate, Vote.isBy, imp_iff_not_or]

/-- **The votes cast are the latest ratings.** -/
theorem mem_votesCast_after_iff {h : List Deed} {v : Vote} :
    v ∈ (after h).votesCast ↔ latestRating? h v.user v.key = some v.rating := by
  induction h using List.reverseRecOn with
  | nil => simp [latestRating?]
  | append_singleton h d ih =>
    rw [after_concat, latestRating?_concat]
    cases d with
    | addFavorite user key =>
      rw [perform, votesCast_addFavorite, ih]
      rfl
    | removeFavorite user key => exact ih
    | rate user key rating =>
      rw [perform, mem_votesCast_rate_iff, ih, Deed.rating?]
      by_cases heq : user = v.user ∧ key = v.key
      · obtain ⟨rfl, rfl⟩ := heq
        obtain ⟨u, k, r⟩ := v
        simp [eq_comm]
      · have hne : ¬ (v.user = user ∧ v.key = key) := fun h => heq ⟨h.1.symm, h.2.symm⟩
        have hnew : v ≠ ⟨user, key, rating⟩ := by
          rintro rfl
          exact heq ⟨rfl, rfl⟩
        simp [if_neg heq, hne, hnew]

/-- Each user has one vote on a resource. -/
theorem nodup_votesCast_after (h : List Deed) :
    ((after h).votesCast.map fun v => (v.user, v.key)).Nodup := by
  induction h using List.reverseRecOn with
  | nil => exact List.nodup_nil
  | append_singleton h d ih =>
    rw [after_concat]
    cases d with
    | addFavorite user key => rwa [perform, votesCast_addFavorite]
    | removeFavorite user key => exact ih
    | rate user key rating =>
      rw [perform, rate, List.map_append, List.map_singleton]
      refine List.nodup_append.mpr ⟨ih.sublist (List.filter_sublist.map _), ?_, ?_⟩
      · exact List.nodup_singleton _
      · -- The earlier vote of the user has been taken away.
        intro a ha b hb
        obtain ⟨v, hv, rfl⟩ := List.mem_map.mp ha
        rw [List.mem_singleton] at hb
        subst hb
        have hother := (List.mem_filter.mp hv).2
        intro heq
        rw [Prod.mk.injEq] at heq
        simp [Vote.isBy, heq.1, heq.2] at hother

/-- A deed gives a resource a rating for a user only by that rating. -/
theorem rating?_eq_some_iff {d : Deed} {user : String} {key : ItemKey} {rating : Rating} :
    d.rating? user key = some rating ↔ d = .rate user key rating := by
  cases d with
  | addFavorite u k => simp [Deed.rating?]
  | removeFavorite u k => simp [Deed.rating?]
  | rate u k r =>
    by_cases heq : u = user ∧ k = key
    · obtain ⟨rfl, rfl⟩ := heq
      simp [Deed.rating?]
    · have hne : ¬ Deed.rate u k r = .rate user key rating := by
        intro h
        cases h
        exact heq ⟨rfl, rfl⟩
      simp [Deed.rating?, heq, hne]

/-- A user has a latest rating if the user has given one. -/
theorem exists_latestRating?_iff {h : List Deed} {user : String} {key : ItemKey} :
    (∃ rating, latestRating? h user key = some rating) ↔ ∃ rating, .rate user key rating ∈ h := by
  induction h using List.reverseRecOn with
  | nil => simp [latestRating?]
  | append_singleton h d ih =>
    have hlast : (∃ rating, .rate user key rating ∈ h ++ [d]) ↔
        (∃ rating, .rate user key rating ∈ h) ∨ ∃ rating, d.rating? user key = some rating := by
      simp only [rating?_eq_some_iff, List.mem_append, List.mem_singleton, exists_or]
      exact or_congr_right (exists_congr fun _ => eq_comm)
    rw [hlast, ← ih, latestRating?_concat]
    cases hd : d.rating? user key with
    | none => simp
    | some rating => simp

/-- **A user has rated what the user has given a rating.** -/
theorem hasRated_after_iff {h : List Deed} {user : String} {key : ItemKey} :
    (after h).hasRated user key = true ↔ ∃ rating, .rate user key rating ∈ h := by
  rw [← exists_latestRating?_iff, hasRated, List.any_eq_true]
  constructor
  · rintro ⟨v, hv, hby⟩
    simp only [Vote.isBy, Bool.and_eq_true, beq_iff_eq] at hby
    obtain ⟨rfl, rfl⟩ := hby
    exact ⟨v.rating, mem_votesCast_after_iff.mp hv⟩
  · rintro ⟨rating, hlatest⟩
    exact ⟨⟨user, key, rating⟩, mem_votesCast_after_iff.mpr hlatest, by simp [Vote.isBy]⟩

/-- As many users as votes: each vote on a resource that is counted is that of another user. -/
theorem length_filter_votesCast_after (h : List Deed) (key : ItemKey) (p : Rating → Bool) :
    ((after h).votesCast.filter fun v => v.key = key && p v.rating).length =
      {user | ∃ rating, latestRating? h user key = some rating ∧ p rating = true}.ncard := by
  have hnodup : (((after h).votesCast.filter fun v => v.key = key && p v.rating).map
      (·.user)).Nodup := by
    have hkept := (nodup_votesCast_after h).sublist
      ((List.filter_sublist (p := fun v => v.key = key && p v.rating)).map _)
    -- On one resource, the user alone tells the votes apart.
    rw [List.Nodup, List.pairwise_map] at hkept ⊢
    refine hkept.imp_of_mem ?_
    intro v w hv hw hne huser
    have hvkey := (List.mem_filter.mp hv).2
    have hwkey := (List.mem_filter.mp hw).2
    simp only [Bool.and_eq_true, decide_eq_true_eq] at hvkey hwkey
    exact hne (Prod.ext huser (hvkey.1.trans hwkey.1.symm))
  have hset : {user | ∃ rating, latestRating? h user key = some rating ∧ p rating = true} =
      ↑(((after h).votesCast.filter fun v => v.key = key && p v.rating).map (·.user)).toFinset := by
    ext user
    simp only [Set.mem_ofPred_eq, List.coe_toFinset, List.mem_map, List.mem_filter,
      Bool.and_eq_true, decide_eq_true_eq]
    constructor
    · rintro ⟨rating, hlatest, hp⟩
      exact ⟨⟨user, key, rating⟩, ⟨mem_votesCast_after_iff.mpr hlatest, rfl, hp⟩, rfl⟩
    · rintro ⟨v, ⟨hv, rfl, hp⟩, rfl⟩
      exact ⟨v.rating, mem_votesCast_after_iff.mp hv, hp⟩
  rw [hset, Set.ncard_coe_finset, List.toFinset_card_of_nodup hnodup, List.length_map]

/-- **A rating has the votes of all users whose latest it is.** -/
theorem votes_after (h : List Deed) (key : ItemKey) :
    (after h).votes key = latestVotes h key := by
  refine congrArg Votes.mk (funext fun rating => ?_)
  have hlength := length_filter_votesCast_after h key (· == rating)
  have hset : {user | ∃ r, latestRating? h user key = some r ∧ (r == rating) = true} =
      {user | latestRating? h user key = some rating} := by
    ext user
    simp
  rw [hset] at hlength
  show ((after h).votes key).count rating = _
  rw [← hlength, votes, Votes.count_ofList, List.count_eq_length_filter, List.filter_map,
    List.length_map, List.filter_filter]
  refine congrArg List.length (List.filter_congr ?_)
  intro v _
  exact Bool.and_comm _ _

/-- **There are as many votes as users who have rated a resource.** -/
theorem total_votes_after (h : List Deed) (key : ItemKey) :
    ((after h).votes key).total = {user | ∃ rating, .rate user key rating ∈ h}.ncard := by
  have hlength := length_filter_votesCast_after h key fun _ => true
  have hset : {user | ∃ r, latestRating? h user key = some r ∧ true = true} =
      {user | ∃ rating, .rate user key rating ∈ h} := by
    ext user
    simpa using exists_latestRating?_iff
  rw [hset] at hlength
  rw [← hlength, votes, Votes.total_ofList, List.length_map]
  simp

end Votes

/-! ## What is left behind -/

/-- **What a history leaves behind is what it should.** -/
theorem follows_after (h : List Deed) : (after h).Follows h where
  isFavorite_iff := isFavorite_after_iff h
  mem_favorites_iff user key := mem_favorites.trans (isFavorite_after_iff h user key)
  nodup_favorites user := (pairwise_favorites_after h user).imp fun hlt heq => by
    rw [heq] at hlt
    exact lt_irrefl _ hlt
  favorites_ordered := pairwise_favorites_after h
  hasRated_iff _ _ := hasRated_after_iff
  votes_eq := votes_after h
  total_votes := total_votes_after h

end CatalogSearch.Engagement
