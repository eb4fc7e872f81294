import CatalogSearch.Proofs.Text.Percent
import CatalogSearch.Proofs.Text.Pieces
import CatalogSearch.Url.Path
import Mathlib.Data.List.DropRight

/-! # Steps along a path

The path of a server is walked step by step, from slash to slash. A step has a name of its own, or
it means the path itself or the one above. What is told here is where a text leads to that goes on
behind another one.

* **`UrlPath.steps`**: the steps of a text;
* **`UrlPath.IsNamed`**: steps that neither stay nor go up;
* **`UrlPath.walk`**, **`UrlPath.walked`**: the segments after some steps, none of which is the
  last;
* **`UrlPath.bare`**: segments without the empty ones at their end;
* **`UrlPath.resolve_append`**: named steps behind a slash follow the segments before it;
* **`UrlPath.bare_resolve_append_slashes`**: slashes at the end of a text make no difference to the
  bare segments. -/

namespace CatalogSearch.UrlPath

variable {all front more : List (List Char)} {seg text rest : List Char} {slash : Char}

/-! ## Steps -/

/-- **The steps of a text** on a server. -/
def steps (text : List Char) : List (List Char) :=
  (Text.splitOn SchemeKind.server.isSlash text).map (Text.percentEncode keepsInPath)

/-- There is always a step, though it may be empty. -/
theorem steps_ne_nil (text : List Char) : steps text ≠ [] := by
  simp [steps, Text.splitOn_ne_nil]

/-- Texts with a slash between them have the steps of both. -/
theorem steps_append_slash (hslash : SchemeKind.server.isSlash slash = true)
    (text rest : List Char) : steps (text ++ slash :: rest) = steps text ++ steps rest := by
  rw [steps, Text.splitOn_append_separator hslash, List.map_append]
  rfl

/-- Slashes have empty steps between them. -/
theorem steps_replicate_slash (k : Nat) :
    steps (List.replicate k '/') = List.replicate (k + 1) [] := by
  induction k with
  | zero => rfl
  | succ k ih =>
    rw [List.replicate_succ, ← List.nil_append ('/' :: _), steps_append_slash rfl, ih]
    rfl

/-- **A step with a name of its own**: it means neither the path itself nor the one above. -/
structure IsNamed (seg : List Char) : Prop where
  not_dot : isDot seg = false
  not_doubleDot : isDoubleDot seg = false

/-- An empty step has an empty name. -/
theorem isNamed_nil : IsNamed [] := ⟨rfl, rfl⟩

/-- A step with a name of its own becomes a segment. -/
theorem addSegment_of_isNamed (h : IsNamed seg) (isLast : Bool) (all : List (List Char)) :
    addSegment .server isLast all seg = all ++ [seg] := by
  rw [addSegment, h.not_dot, h.not_doubleDot]
  cases all <;> rfl

/-- Steps with names of their own become segments. -/
theorem addSegments_of_isNamed (all : List (List Char)) (h : ∀ seg ∈ more, IsNamed seg) :
    addSegments .server all more = all ++ more := by
  induction more generalizing all with
  | nil => exact (List.append_nil all).symm
  | cons seg more ih =>
    obtain ⟨hseg, hmore⟩ := List.forall_mem_cons.mp h
    cases more with
    | nil => exact addSegment_of_isNamed hseg true all
    | cons next more =>
      rw [addSegments, addSegment_of_isNamed hseg, ih _ hmore, List.append_assoc]
      rfl

/-! ## Walking on -/

/-- **The segments after some steps**, none of which is the last. -/
def walk (all steps : List (List Char)) : List (List Char) :=
  steps.foldl (addSegment .server false) all

/-- One step more. -/
theorem walk_concat (all front : List (List Char)) (seg : List Char) :
    walk all (front ++ [seg]) = addSegment .server false (walk all front) seg := by
  rw [walk, List.foldl_append]
  rfl

/-- Steps are made one after the other. -/
theorem addSegments_append_cons (all front : List (List Char)) (seg : List Char)
    (more : List (List Char)) :
    addSegments .server all (front ++ seg :: more) =
      addSegments .server (walk all front) (seg :: more) := by
  induction front generalizing all with
  | nil => rfl
  | cons first front ih =>
    rw [walk, List.foldl_cons]
    change _ = addSegments .server (walk (addSegment .server false all first) front) (seg :: more)
    rw [← ih]
    cases front <;> rfl

/-- **Where a text leads to** from the root, if it is not the end of a path. -/
def walked : List Char → List (List Char)
  | [] => []
  | _ :: rest => walk [] (steps rest)

/-- **A text at the start of which a slash stands**, if it is not empty. -/
def StartsAtSlash (text : List Char) : Prop :=
  ∀ c, text.head? = some c → SchemeKind.server.isSlash c = true

/-- The steps behind a slash lead from the root. -/
theorem resolve_cons (hslash : SchemeKind.server.isSlash slash = true) (rest : List Char) :
    resolve .server (slash :: rest) = addSegments .server [] (steps rest) := by
  rw [resolve, if_pos hslash]
  rfl

/-- **Named steps behind a slash follow the segments before it.** -/
theorem resolve_append (htext : StartsAtSlash text)
    (hslash : SchemeKind.server.isSlash slash = true) (hrest : ∀ seg ∈ steps rest, IsNamed seg) :
    resolve .server (text ++ slash :: rest) = walked text ++ steps rest := by
  cases text with
  | nil => exact (resolve_cons hslash rest).trans (addSegments_of_isNamed [] hrest)
  | cons c text =>
    rw [List.cons_append, resolve_cons (htext c rfl), steps_append_slash hslash]
    cases hsteps : steps rest with
    | nil => exact absurd hsteps (steps_ne_nil rest)
    | cons first more =>
      rw [hsteps] at hrest
      rw [addSegments_append_cons, addSegments_of_isNamed _ hrest]
      rfl

/-- As a last step, one without a name of its own leaves an empty segment. -/
theorem addSegment_true_eq (all : List (List Char)) (seg : List Char) :
    addSegment .server true all seg = addSegment .server false all seg ∨
      addSegment .server true all seg = addSegment .server false all seg ++ [[]] := by
  unfold addSegment
  by_cases hdots : isDoubleDot seg = true
  · simp [hdots]
  · by_cases hdot : isDot seg = true
    · simp [hdots, hdot]
    · simp [hdots, hdot]

/-- The steps of a text but for the last one, and that. -/
theorem exists_steps_eq_concat (text : List Char) : ∃ front seg, steps text = front ++ [seg] :=
  ⟨_, _, (List.dropLast_append_getLast (steps_ne_nil text)).symm⟩

/-- A path leads where its text does, up to an empty segment at the end. -/
theorem resolve_eq_walked (htext : StartsAtSlash text) :
    resolve .server text = walked text ∨ resolve .server text = walked text ++ [[]] := by
  cases text with
  | nil => exact Or.inr rfl
  | cons c rest =>
    obtain ⟨front, seg, hsteps⟩ := exists_steps_eq_concat rest
    rw [resolve_cons (htext c rfl), walked, hsteps, addSegments_append_cons, walk_concat]
    exact addSegment_true_eq _ seg

/-! ## Bare segments -/

/-- **Segments without the empty ones at their end.** -/
def bare (all : List (List Char)) : List (List Char) := all.rdropWhile List.isEmpty

/-- The bare segments are the first ones. -/
theorem bare_isPrefix (all : List (List Char)) : bare all <+: all := List.rdropWhile_prefix _ all

/-- An empty segment at the end makes no difference. -/
theorem bare_concat_nil (all : List (List Char)) : bare (all ++ [[]]) = bare all :=
  List.rdropWhile_concat_pos _ _ _ rfl

/-- Empty segments at the end make no difference. -/
theorem bare_append_replicate_nil (all : List (List Char)) (k : Nat) :
    bare (all ++ List.replicate k []) = bare all := by
  induction k with
  | zero => rw [List.replicate_zero, List.append_nil]
  | succ k ih => rw [List.replicate_succ', ← List.append_assoc, bare_concat_nil, ih]

/-- Segments that end in one with a name are bare. -/
theorem bare_concat (hseg : seg ≠ []) (all : List (List Char)) :
    bare (all ++ [seg]) = all ++ [seg] :=
  List.rdropWhile_concat_neg _ _ _ (by simpa using hseg)

/-- Behind the bare segments stands none that is not empty. -/
theorem eq_nil_of_isPrefix (h : bare all ++ [seg] <+: all) : seg = [] := by
  have hall : bare all ++ all.rtakeWhile List.isEmpty = all := List.rdropWhile_append_rtakeWhile
  have hpre : bare all ++ [seg] <+: bare all ++ all.rtakeWhile List.isEmpty := by rwa [hall]
  have hseg : seg ∈ all.rtakeWhile List.isEmpty :=
    ((List.prefix_append_right_inj _).mp hpre).subset List.mem_cons_self
  exact List.isEmpty_iff.mp (List.mem_rtakeWhile_imp hseg)

/-- **Slashes at the end of a text** make no difference to the bare segments. -/
theorem bare_resolve_append_slashes (htext : StartsAtSlash text) (k : Nat) :
    bare (resolve .server (text ++ List.replicate k '/')) = bare (walked text) := by
  cases k with
  | zero =>
    rw [List.replicate_zero, List.append_nil]
    rcases resolve_eq_walked htext with h | h
    · rw [h]
    · rw [h, bare_concat_nil]
  | succ k =>
    have hsteps : ∀ seg ∈ steps (List.replicate k '/'), IsNamed seg := by
      intro seg hseg
      rw [steps_replicate_slash] at hseg
      rw [List.eq_of_mem_replicate hseg]
      exact isNamed_nil
    rw [List.replicate_succ, resolve_append htext rfl hsteps, steps_replicate_slash,
      bare_append_replicate_nil]

end CatalogSearch.UrlPath
