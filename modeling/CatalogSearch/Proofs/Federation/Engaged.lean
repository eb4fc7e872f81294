import CatalogSearch.Proofs.Engagement.History
import CatalogSearch.Proofs.Federation.Outcome
import CatalogSearch.Proofs.Gateway.Dispatch

/-! # What callers learn of favorites and ratings

The details of an item come with what its users have done with it, and with what the user who asks
has. Which item it is, and whether there is one, does not depend on users.

* **`Federation.afterDeeds`**: a federation whose users have done something;
* **`ResourceDetails.Reports`**: what details should tell of the deeds of users;
* **`Federation.item`**, **`Federation.details_eq_item`**: details without anything about users, and
  details as these with more;
* **`Federation.details_follow_deeds`**: what deeds leave behind, and that details tell it. -/

namespace CatalogSearch

open Engagement (Deed lastChange? latestVotes)

/-- **A federation whose users have done something**, and nothing else. -/
def Federation.afterDeeds (f : Federation) (h : List Deed) : Federation :=
  { f with engagement := .after h }

/-- **What details should tell of the deeds of users** to a user who asks, if one does. -/
structure ResourceDetails.Reports (d : ResourceDetails) (h : List Deed) (user : Option String)
    (key : ItemKey) : Prop where
  /-- It is a favorite if the user who asks last made it one. -/
  favorite_iff : d.favorite = true ↔ ∃ u, user = some u ∧ lastChange? h u key = some true
  /-- It is rated if the user who asks has rated it. -/
  rated_iff : d.rated = true ↔ ∃ u, user = some u ∧ ∃ rating, .rate u key rating ∈ h
  /-- All users who have rated it are counted. -/
  totalRatingsCount_eq : d.totalRatingsCount = {u | ∃ rating, .rate u key rating ∈ h}.ncard
  /-- The rating is the mean of the latest ratings of all of them. -/
  currentRating_eq : d.currentRating = (latestVotes h key).average?

namespace Federation

variable {f : Federation} {h : List Deed} {sourceId itemId : String} {user : Option String}

/-- One item, without anything about users. -/
def item (f : Federation) (sourceId itemId : String) : Run Resource := do
  if Text.blank itemId then Run.ofExcept (.error (.invalidRequest .blankItemId))
  else
    let s ← Run.ofExcept (f.requireSource sourceId)
    f.gateway.details s itemId

/-- A source that is required is the one of its id. -/
theorem id_of_requireSource {s : Source} (hs : f.requireSource sourceId = .ok s) :
    s.id = sourceId := by
  unfold requireSource at hs
  split at hs
  · next s' hs' =>
    cases hs
    exact Registry.id_of_source? hs'
  · cases hs

/-- **Details are the item, with what users think of it** under the ids that were asked for. -/
theorem details_eq_item (f : Federation) (sourceId itemId : String) (user : Option String) :
    f.details sourceId itemId user =
      f.item sourceId itemId >>= fun r => pure (f.engaged ⟨sourceId, itemId⟩ user r) := by
  unfold details item
  by_cases hblank : Text.blank itemId
  · rw [if_pos hblank, if_pos hblank, Run.ofExcept_error_bind]
  · rw [if_neg hblank, if_neg hblank]
    cases hs : f.requireSource sourceId with
    | error e => rfl
    | ok s =>
      rw [Run.ofExcept_ok_bind, Run.ofExcept_ok_bind, id_of_requireSource hs]

/-- Details go with the deeds of users. -/
theorem reports_engaged_afterDeeds (f : Federation) (h : List Deed) (key : ItemKey)
    (user : Option String) (r : Resource) :
    ((f.afterDeeds h).engaged key user r).Reports h user key where
  favorite_iff := by
    show (user.any fun u => (Engagement.after h).isFavorite u key) = true ↔ _
    rw [Option.any_eq_true]
    exact exists_congr fun u => and_congr_right fun _ => Engagement.isFavorite_after_iff h u key
  rated_iff := by
    show (user.any fun u => (Engagement.after h).hasRated u key) = true ↔ _
    rw [Option.any_eq_true]
    exact exists_congr fun u => and_congr_right fun _ => Engagement.hasRated_after_iff
  totalRatingsCount_eq := Engagement.total_votes_after h key
  currentRating_eq := congrArg Votes.average? (Engagement.votes_after h key)

/-- **Details tell what users have done.** A history of deeds leaves behind what it should: the
favorites of each user in their order, and the latest ratings of all. Details of an item tell this
of the source id and the item id that are asked for, and the deeds of users have no part in whether
there are any details, for which resource, and what is asked for them. -/
theorem details_follow_deeds (h : List Deed) :
    (Engagement.after h).Follows h ∧
      ∀ (f : Federation) (sourceId itemId : String) (user : Option String),
        (∀ d, ((f.afterDeeds h).details sourceId itemId user).result = .ok d →
          d.Reports h user ⟨sourceId, itemId⟩) ∧
        ((f.afterDeeds h).details sourceId itemId user).result.map (·.resource) =
          (f.details sourceId itemId none).result.map (·.resource) ∧
        ((f.afterDeeds h).details sourceId itemId user).asked =
          (f.details sourceId itemId none).asked := by
  refine ⟨Engagement.follows_after h, fun f sourceId itemId user => ?_⟩
  have hitem : (f.afterDeeds h).item sourceId itemId = f.item sourceId itemId := rfl
  rw [details_eq_item, details_eq_item, hitem]
  refine ⟨?_, ?_, ?_⟩
  · intro d hd
    rw [Run.result_bind_pure] at hd
    obtain ⟨r, -, rfl⟩ := map_eq_ok_iff.mp hd
    exact reports_engaged_afterDeeds f h _ user r
  · rw [Run.result_bind_pure, Run.result_bind_pure]
    cases (f.item sourceId itemId).result with
    | error e => rfl
    | ok r => rfl
  · rw [Run.asked_bind_pure, Run.asked_bind_pure]

/-- The item `x` of the source `a`. -/
def keptItem : ItemKey := ⟨"a", "x"⟩

/-- Anna thinks better of an item, and Bob thinks of it what he always thought. -/
def secondThoughts : List Deed :=
  [ .rate "anna" keptItem .one, .addFavorite "anna" keptItem, .rate "bob" keptItem .four,
    .removeFavorite "anna" keptItem, .addFavorite "bob" keptItem, .removeFavorite "bob" keptItem,
    .addFavorite "anna" keptItem, .rate "anna" keptItem .five ]

/-- A source that has this item. -/
def itemHost : Federation :=
  .ofHosts ["a"] (.ofRoutes
    [{ url := "http://a/resources/x",
       response := { status := ⟨200⟩, body := some (Text.Utf8.encode "\x7b\x7d".toList) } }])

/-- The item is a favorite of Anna, and what she said first is forgotten; it is none of Bob, who has
rated it; and nobody's of somebody without a name. -/
theorem details_follow_deeds_secondThoughts :
    (∃ d, ((itemHost.afterDeeds secondThoughts).details "a" "x" (some "anna")).result = .ok d ∧
        d.favorite = true ∧ d.rated = true ∧ d.totalRatingsCount = 2 ∧
        d.currentRating = some "4.5" ∧ d.Reports secondThoughts (some "anna") keptItem) ∧
      (∃ d, ((itemHost.afterDeeds secondThoughts).details "a" "x" (some "bob")).result = .ok d ∧
        ¬ d.favorite = true ∧ d.rated = true ∧ d.Reports secondThoughts (some "bob") keptItem) ∧
      ∃ d, ((itemHost.afterDeeds secondThoughts).details "a" "x" none).result = .ok d ∧
        ¬ d.favorite = true ∧ ¬ d.rated = true ∧ d.Reports secondThoughts none keptItem := by
  have hreports := fun user => ((details_follow_deeds secondThoughts).2 itemHost "a" "x" user).1
  refine ⟨?_, ?_, ?_⟩
  · obtain ⟨d, hd, hcount, hrating⟩ :
        ∃ d, ((itemHost.afterDeeds secondThoughts).details "a" "x" (some "anna")).result = .ok d ∧
          d.totalRatingsCount = 2 ∧ d.currentRating = some "4.5" := by
      decide +kernel
    have hd' := hreports (some "anna") d hd
    refine ⟨d, hd, hd'.favorite_iff.mpr ⟨"anna", rfl, by decide⟩,
      hd'.rated_iff.mpr ⟨"anna", rfl, .five, by decide⟩, hcount, hrating, hd'⟩
  · obtain ⟨d, hd⟩ : ∃ d,
        ((itemHost.afterDeeds secondThoughts).details "a" "x" (some "bob")).result = .ok d := by
      decide +kernel
    have hd' := hreports (some "bob") d hd
    refine ⟨d, hd, ?_, hd'.rated_iff.mpr ⟨"bob", rfl, .four, by decide⟩, hd'⟩
    rw [hd'.favorite_iff]
    rintro ⟨u, ⟨⟩, hlast⟩
    exact absurd hlast (by decide)
  · obtain ⟨d, hd⟩ :
        ∃ d, ((itemHost.afterDeeds secondThoughts).details "a" "x" none).result = .ok d := by
      decide +kernel
    have hd' := hreports none d hd
    refine ⟨d, hd, ?_, ?_, hd'⟩
    · rw [hd'.favorite_iff]
      rintro ⟨u, ⟨⟩, -⟩
    · rw [hd'.rated_iff]
      rintro ⟨u, ⟨⟩, -⟩

end Federation

end CatalogSearch
