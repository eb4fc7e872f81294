/-! # Letters

Comparison of texts without regard to the case of ASCII letters, and the order of texts by code
points, which is the order of their UTF-8 bytes. -/

namespace CatalogSearch.Text

/-- A text with its ASCII letters in lower case. -/
def lower (cs : List Char) : List Char := cs.map Char.toLower

/-- Whether two strings differ at most in the case of ASCII letters. -/
def sameLetters (s t : String) : Bool := lower s.toList == lower t.toList

@[simp] theorem sameLetters_self (s : String) : sameLetters s s = true := by simp [sameLetters]

/-- The order of strings by code points. -/
def compare (s t : String) : Ordering := Ord.compare s.toList t.toList

end CatalogSearch.Text
