import CatalogSearch.Text.NormalForm
import CatalogSearch.Url.Domain.Folded
import CatalogSearch.Url.Domain.Refused
import CatalogSearch.Url.Domain.Spelled

/-! # The spelling of domain names

Of all spellings of a domain name that count as the same, one is kept:

* **`Domain.mapChar?`**: what becomes of a character;
* **`Domain.spelling?`**: the spelling of a name that is kept.

In ASCII that is the one in small letters (`spelling?_of_ascii`). -/

namespace CatalogSearch.Domain

/-- **What becomes of a character** of a domain name; nothing if it is refused. -/
def mapChar? (c : Char) : Option (List Char) :=
  if c.toNat < 0x80 then some [c.toLower]
  else if refused.contains c then none
  else if dropped.contains c then some []
  else some (((folded.image? c).or (spelled.image? c)).getD [c])

/-- **The spelling of a name that is kept**, in the composed normal form. -/
def spelling? (cs : List Char) : Option (List Char) :=
  (cs.mapM mapChar?).map fun all => Text.normalForm all.flatten

/-- A character that is spelled as it should be. -/
def isKept (c : Char) : Bool := mapChar? c == some [c]

/-- A text that is spelled as it should be: nothing in it would be replaced or composed. -/
def isSpelled (cs : List Char) : Bool := cs.all isKept && Text.normalForm cs == cs

/-- A small letter of ASCII is in ASCII. -/
theorem toNat_toLower_lt {c : Char} (h : c.toNat < 0x80) : c.toLower.toNat < 0x80 := by
  have hall : ∀ n < 0x80, (Char.ofNat n).toLower.toNat < 0x80 := by decide
  have hc := hall c.toNat h
  rwa [Char.ofNat_toNat] at hc

/-- **Names in ASCII are spelled in small letters.** -/
theorem spelling?_of_ascii {cs : List Char} (h : ∀ c ∈ cs, c.toNat < 0x80) :
    spelling? cs = some (cs.map Char.toLower) := by
  have hmap : cs.mapM mapChar? = some (cs.map fun c => [c.toLower]) := by
    induction cs with
    | nil => rfl
    | cons c cs ih =>
      rw [List.mapM_cons, ih fun d hd => h d (by simp [hd]), mapChar?, if_pos (h c (by simp))]
      rfl
  have hflat : (cs.map fun c => [c.toLower]).flatten = cs.map Char.toLower := by
    rw [← List.flatMap_def, List.map_eq_flatMap]
  rw [spelling?, hmap, Option.map_some, hflat, Text.normalForm_of_ascii]
  intro c hc
  obtain ⟨d, hd, rfl⟩ := List.mem_map.1 hc
  exact toNat_toLower_lt (h d hd)

end CatalogSearch.Domain
