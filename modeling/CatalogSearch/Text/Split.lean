/-! # Splitting and joining

Texts made of pieces with a separator between them:

* **`splitOn p cs`**: the pieces between the characters satisfying `p`, empty pieces included;
* **`joinWith sep pieces`**: the pieces with `sep` between neighbours;
* **`stripPrefix? lead cs`**: what follows `lead` at the start of `cs`.

Splitting undoes joining with a one-character separator that no piece contains
(`splitOn_joinWith`). -/

namespace CatalogSearch.Text

/-- The pieces between the characters satisfying `p`; there is always at least one. -/
def splitOn (p : Char → Bool) : List Char → List (List Char)
  | [] => [[]]
  | c :: cs =>
    if p c then [] :: splitOn p cs
    else
      match splitOn p cs with
      | [] => [[c]]
      | piece :: pieces => (c :: piece) :: pieces

@[simp] theorem splitOn_nil (p : Char → Bool) : splitOn p [] = [[]] := rfl

theorem splitOn_ne_nil (p : Char → Bool) (cs : List Char) : splitOn p cs ≠ [] := by
  cases cs with
  | nil => simp
  | cons c cs =>
    rw [splitOn]
    split
    · simp
    · split <;> simp

/-- The pieces with `sep` between neighbours. -/
def joinWith (sep : List Char) : List (List Char) → List Char
  | [] => []
  | [piece] => piece
  | piece :: next :: pieces => piece ++ sep ++ joinWith sep (next :: pieces)

@[simp] theorem joinWith_nil (sep : List Char) : joinWith sep [] = [] := rfl

@[simp] theorem joinWith_singleton (sep piece : List Char) : joinWith sep [piece] = piece := rfl

theorem joinWith_cons_cons (sep piece next : List Char) (pieces : List (List Char)) :
    joinWith sep (piece :: next :: pieces) = piece ++ sep ++ joinWith sep (next :: pieces) := rfl

/-- A piece without separators is split off whole. -/
theorem splitOn_append_cons {p : Char → Bool} {piece : List Char} (h : ∀ c ∈ piece, p c = false)
    {d : Char} (hd : p d = true) (rest : List Char) :
    splitOn p (piece ++ d :: rest) = piece :: splitOn p rest := by
  induction piece with
  | nil => simp [splitOn, hd]
  | cons c piece ih =>
    have hc : p c = false := h c (by simp)
    rw [List.cons_append, splitOn, ih fun x hx => h x (by simp [hx])]
    simp [hc]

/-- A text without separators is one piece. -/
theorem splitOn_eq_singleton {p : Char → Bool} {piece : List Char}
    (h : ∀ c ∈ piece, p c = false) : splitOn p piece = [piece] := by
  induction piece with
  | nil => rfl
  | cons c piece ih =>
    have hc : p c = false := h c (by simp)
    rw [splitOn, ih fun x hx => h x (by simp [hx])]
    simp [hc]

/-- **Splitting undoes joining** when no piece contains the separator. -/
theorem splitOn_joinWith {p : Char → Bool} {d : Char} (hd : p d = true) {pieces : List (List Char)}
    (hne : pieces ≠ []) (h : ∀ piece ∈ pieces, ∀ c ∈ piece, p c = false) :
    splitOn p (joinWith [d] pieces) = pieces := by
  induction pieces with
  | nil => exact absurd rfl hne
  | cons piece pieces ih =>
    have hp : ∀ c ∈ piece, p c = false := h piece (by simp)
    cases pieces with
    | nil => rw [joinWith_singleton, splitOn_eq_singleton hp]
    | cons next pieces =>
      rw [joinWith_cons_cons, List.append_assoc, List.singleton_append,
        splitOn_append_cons hp hd, ih (by simp) fun q hq => h q (by simp [hq])]

/-- What follows `lead` at the start of a text. -/
def stripPrefix? : List Char → List Char → Option (List Char)
  | [], cs => some cs
  | _ :: _, [] => none
  | a :: lead, c :: cs => if a = c then stripPrefix? lead cs else none

@[simp] theorem stripPrefix?_nil (cs : List Char) : stripPrefix? [] cs = some cs := by
  cases cs <;> rfl

/-- A text starts with `lead` exactly when something can follow it. -/
theorem stripPrefix?_eq_some_iff {lead cs rest : List Char} :
    stripPrefix? lead cs = some rest ↔ cs = lead ++ rest := by
  induction lead generalizing cs with
  | nil => simp [eq_comm]
  | cons a lead ih =>
    cases cs with
    | nil => simp [stripPrefix?]
    | cons c cs =>
      by_cases h : a = c
      · subst h
        simp [stripPrefix?, ih]
      · simp [stripPrefix?, h, Ne.symm h]

end CatalogSearch.Text
