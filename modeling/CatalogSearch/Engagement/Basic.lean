import CatalogSearch.Engagement.Votes
import CatalogSearch.Resource.Key

/-! # What users think of resources

Users keep favorites and give ratings.

* **`Engagement`**: all favorites and ratings;
* **`Engagement.addFavorite`**, **`Engagement.removeFavorite`**, **`Engagement.rate`**: what users
  do;
* **`Engagement.favorites`**, **`Engagement.isFavorite`**: the favorites of a user;
* **`Engagement.hasRated`**, **`Engagement.votes`**: ratings of a resource. -/

namespace CatalogSearch

/-- The rating a user gave a resource. -/
structure Engagement.Vote where
  user : String
  key : ItemKey
  rating : Rating
  deriving DecidableEq, Repr

/-- **All favorites and ratings.** -/
structure Engagement where
  /-- Users and their favorites, each pair once, in the order they were added. -/
  kept : List (String × ItemKey) := []
  /-- The ratings, one for each user and resource. -/
  votesCast : List Engagement.Vote := []
  deriving DecidableEq, Repr, Inhabited

namespace Engagement

/-! ## Favorites -/

/-- A user adds a favorite. One the user has already stays where it is. -/
def addFavorite (e : Engagement) (user : String) (key : ItemKey) : Engagement :=
  if (user, key) ∈ e.kept then e else { e with kept := e.kept ++ [(user, key)] }

/-- A user removes a favorite. -/
def removeFavorite (e : Engagement) (user : String) (key : ItemKey) : Engagement :=
  { e with kept := e.kept.filter (· ≠ (user, key)) }

/-- **The favorites of a user**, the oldest first. -/
def favorites (e : Engagement) (user : String) : List ItemKey :=
  (e.kept.filter (·.1 = user)).map (·.2)

/-- Whether a resource is a favorite of a user. -/
def isFavorite (e : Engagement) (user : String) (key : ItemKey) : Bool := (user, key) ∈ e.kept

/-- The favorites of a user are what the user has as favorites. -/
theorem mem_favorites {e : Engagement} {user : String} {key : ItemKey} :
    key ∈ e.favorites user ↔ e.isFavorite user key = true := by
  simp [favorites, isFavorite]

/-! ## Ratings -/

/-- A vote by a user on a resource. -/
def Vote.isBy (user : String) (key : ItemKey) (v : Vote) : Bool := v.user == user && v.key == key

/-- A user rates a resource. An earlier rating of the user is replaced. -/
def rate (e : Engagement) (user : String) (key : ItemKey) (rating : Rating) : Engagement :=
  { e with votesCast := e.votesCast.filter (!·.isBy user key) ++ [⟨user, key, rating⟩] }

/-- Whether a user has rated a resource. -/
def hasRated (e : Engagement) (user : String) (key : ItemKey) : Bool :=
  e.votesCast.any (·.isBy user key)

/-- **The votes on a resource**, those of all users. -/
def votes (e : Engagement) (key : ItemKey) : Votes :=
  .ofList ((e.votesCast.filter (·.key = key)).map (·.rating))

end Engagement

end CatalogSearch
