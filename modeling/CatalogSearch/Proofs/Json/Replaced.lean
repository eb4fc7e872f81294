import CatalogSearch.Proofs.Json.Overlooked
import Mathlib.Data.List.Nodup
import Mathlib.Data.List.Pairwise

/-! # One member of an object set to another value

An object is read member by member, and each member sets one field of a record. If the fields are
independent of one another, it makes no difference where in the object a member stands. So an object
in which one member gets another value, or is added, is read as the same record with only its field
set anew.

* **`Codec.Reads`**, **`Codec.readMembers_eq_ok_iff`**: how objects are read, one rule for each kind
  of member;
* **`Codec.Field.Sets`**, **`Codec.IndependentFields`**: what fields do to a record, and fields that
  do not interfere;
* **`Codec.Reads.frame`**: reading a record in which a field has been set;
* **`Json.Puts`**, **`Codec.record_object_put`**: objects with a member set to a value, and what
  they are read as;
* **`Codec.list_array_replaced`**: the same for one item of a list. -/

namespace CatalogSearch

/-- **An object in which the member of a name is set to a value**: it takes the place of a member
that there is, or it is added where there is none. -/
inductive Json.Puts (name : String) (v : Json) :
    List (String × Json) → List (String × Json) → Prop where
  | replaced (before after : List (String × Json)) (old : Json) :
    Puts name v (before ++ (name, old) :: after) (before ++ (name, v) :: after)
  | added (before after : List (String × Json)) (h : ∀ m ∈ before ++ after, m.1 ≠ name) :
    Puts name v (before ++ after) (before ++ (name, v) :: after)

namespace Codec

variable {α β σ : Type}

/-! ## Reading members -/

/-- **How the members of an object are read** into a record, with some names already taken. A member
of another name than those of the fields is passed over if it is whole. A member of a field is read
into it if its name has not been taken. -/
inductive Reads (fields : List (Field σ)) (around : Nat) :
    List String → σ → List (String × Json) → List String × σ → Prop where
  | nil (seen : List String) (s : σ) : Reads fields around seen s [] (seen, s)
  | other {seen : List String} {s : σ} {name : String} {v : Json} {members : List (String × Json)}
    {out : List String × σ} (hname : ∀ f ∈ fields, f.name ≠ name) (hwhole : v.isWhole = true)
    (hfault : v ≠ .fault .name) (rest : Reads fields around seen s members out) :
    Reads fields around seen s ((name, v) :: members) out
  | field {seen : List String} {s : σ} {name : String} {v : Json} {members : List (String × Json)}
    {out : List String × σ} {f : Field σ} {set : σ → σ} (hf : f ∈ fields) (hname : f.name = name)
    (hseen : name ∉ seen) (hbroken : v ≠ .fault .broken) (hfault : v ≠ .fault .name)
    (hset : f.decode around v = .ok set)
    (rest : Reads fields around (name :: seen) (set s) members out) :
    Reads fields around seen s ((name, v) :: members) out

variable {fields : List (Field σ)} {around : Nat} {seen : List String} {s : σ}
  {members before after : List (String × Json)} {out : List String × σ}

/-- A field is found by its name if all names are different. -/
theorem find?_name (hnames : (fields.map (·.name)).Nodup) {f : Field σ} (hf : f ∈ fields) :
    fields.find? (fun g => g.name == f.name) = some f := by
  cases hfind : fields.find? fun g => g.name == f.name with
  | none => exact absurd (beq_self_eq_true f.name) (List.find?_eq_none.mp hfind f hf)
  | some g =>
    have hname : g.name = f.name := by simpa using List.find?_some hfind
    rw [List.inj_on_of_nodup_map hnames (List.mem_of_find?_eq_some hfind) hf hname]

/-- **Members are read by these rules.** -/
theorem readMembers_eq_ok_iff (hnames : (fields.map (·.name)).Nodup) :
    readMembers fields around seen s members = .ok out ↔
      Reads fields around seen s members out := by
  constructor
  · -- By induction on the members: which rule applies is told by whether a field has the name.
    intro h
    induction members generalizing seen s with
    | nil =>
      obtain rfl : (seen, s) = out := Except.ok.inj h
      exact .nil seen s
    | cons m members ih =>
      obtain ⟨name, v⟩ := m
      have hbroken : v ≠ .fault .broken := by
        rintro rfl
        cases h
      have hfault : v ≠ .fault .name := by
        rintro rfl
        cases h
      rw [readMembers_cons fields around seen s name hbroken hfault] at h
      cases hfind : fields.find? fun f => f.name == name with
      | none =>
        have hname : ∀ f ∈ fields, f.name ≠ name := by simpa using hfind
        simp only [hfind] at h
        by_cases hwhole : v.isWhole = true
        · rw [if_pos hwhole] at h
          exact .other hname hwhole hfault (ih h)
        · rw [if_neg hwhole] at h
          cases h
      | some f =>
        obtain rfl : f.name = name := by simpa using List.find?_some hfind
        simp only [hfind] at h
        by_cases hseen : f.name ∈ seen
        · rw [if_pos (List.contains_iff_mem.mpr hseen)] at h
          cases h
        · rw [if_neg (fun hmem => hseen (List.contains_iff_mem.mp hmem))] at h
          obtain ⟨set, hset, hrest⟩ := bind_eq_ok_iff.mp h
          exact .field (List.mem_of_find?_eq_some hfind) rfl hseen hbroken hfault hset (ih hrest)
  · -- By induction on the rules. Names are different, so the lookup finds the field of the rule.
    intro h
    induction h with
    | nil seen s => rfl
    | @other seen s name v members out hname hwhole hfault rest ih =>
      have hbroken : v ≠ .fault .broken := by
        rintro rfl
        cases hwhole
      have hfind : fields.find? (fun f => f.name == name) = none := by simpa using hname
      rw [readMembers_cons fields around seen s name hbroken hfault, hfind]
      simp only [if_pos hwhole]
      exact ih
    | @field seen s name v members out f set hf hname hseen hbroken hfault hset rest ih =>
      rw [readMembers_cons fields around seen s name hbroken hfault, ← hname, find?_name hnames hf]
      rw [← hname] at hseen ih
      simp only [if_neg (fun hmem => hseen (List.contains_iff_mem.mp hmem))]
      exact bind_eq_ok_iff.mpr ⟨set, hset, ih⟩

namespace Reads

/-- **Members are read one part after another.** -/
theorem append_iff :
    Reads fields around seen s (before ++ after) out ↔
      ∃ mid, Reads fields around seen s before mid ∧
        Reads fields around mid.1 mid.2 after out := by
  constructor
  · intro h
    induction before generalizing seen s with
    | nil => exact ⟨(seen, s), .nil seen s, h⟩
    | cons m before ih =>
      cases h with
      | other hname hwhole hfault rest =>
        obtain ⟨mid, hbefore, hafter⟩ := ih rest
        exact ⟨mid, .other hname hwhole hfault hbefore, hafter⟩
      | field hf hname hseen hbroken hfault hset rest =>
        obtain ⟨mid, hbefore, hafter⟩ := ih rest
        exact ⟨mid, .field hf hname hseen hbroken hfault hset hbefore, hafter⟩
  · rintro ⟨mid, hbefore, hafter⟩
    induction hbefore with
    | nil seen s => exact hafter
    | other hname hwhole hfault rest ih => exact .other hname hwhole hfault (ih hafter)
    | field hf hname hseen hbroken hfault hset rest ih =>
      exact .field hf hname hseen hbroken hfault hset (ih hafter)

/-- A name that is taken has been, or is that of a member. -/
theorem mem_seen (h : Reads fields around seen s members out) {x : String} (hx : x ∈ out.1) :
    x ∈ seen ∨ ∃ m ∈ members, m.1 = x := by
  induction h with
  | nil seen s => exact Or.inl hx
  | other hname hwhole hfault rest ih =>
    rcases ih hx with hmem | ⟨m, hm, hmx⟩
    · exact Or.inl hmem
    · exact Or.inr ⟨m, List.mem_cons_of_mem _ hm, hmx⟩
  | field hf hname hseen hbroken hfault hset rest ih =>
    rcases ih hx with hmem | ⟨m, hm, hmx⟩
    · rcases List.mem_cons.mp hmem with rfl | hmem
      · exact Or.inr ⟨_, List.mem_cons_self, rfl⟩
      · exact Or.inl hmem
    · exact Or.inr ⟨m, List.mem_cons_of_mem _ hm, hmx⟩

/-- No member has the name of a field that is taken. -/
theorem ne_of_mem_seen (h : Reads fields around seen s members out) {f : Field σ}
    (hf : f ∈ fields) (hseen : f.name ∈ seen) : ∀ m ∈ members, m.1 ≠ f.name := by
  induction h with
  | nil seen s => exact fun m hm => absurd hm List.not_mem_nil
  | other hname hwhole hfault rest ih =>
    rw [List.forall_mem_cons]
    exact ⟨(hname f hf).symm, ih hseen⟩
  | field hg hname hnew hbroken hfault hset rest ih =>
    rw [List.forall_mem_cons]
    refine ⟨?_, ih (List.mem_cons_of_mem _ hseen)⟩
    rintro rfl
    exact hnew hseen

end Reads

/-! ## Independent fields -/

namespace Field

/-- **What a field does to a record**, for some value. -/
def Sets (f : Field σ) (u : σ → σ) : Prop := ∃ around v, f.decode around v = .ok u

/-- A field that is set twice has the second value. -/
def Overwrites (f : Field σ) : Prop := ∀ u u', f.Sets u → f.Sets u' → ∀ s, u' (u s) = u' s

/-- Fields that can be set in any order. -/
def Commutes (f g : Field σ) : Prop := ∀ u u', f.Sets u → g.Sets u' → ∀ s, u' (u s) = u (u' s)

/-- The order of two such fields is no matter. -/
theorem Commutes.symm {f g : Field σ} (h : f.Commutes g) : g.Commutes f :=
  fun u u' hu hu' s => (h u' u hu' hu s).symm

section Of

variable {name name' : String} {absence absence' : Absence} {c : Codec α} {c' : Codec β}
  {get : σ → α} {get' : σ → β} {set : α → σ → σ} {set' : β → σ → σ}

/-- A field reads what its codec reads. -/
theorem decode_of {v : Json} {a : α} (h : c.decode around v = .ok a) :
    (Field.of name absence c get set).decode around v = .ok (set a) :=
  congrArg (Except.map set) h

/-- A field of a record sets its values. -/
theorem exists_set_of_sets {u : σ → σ} (h : (Field.of name absence c get set).Sets u) :
    ∃ a, set a = u := by
  obtain ⟨around, v, hdecode⟩ := h
  obtain ⟨a, -, ha⟩ := map_eq_ok_iff.mp hdecode
  exact ⟨a, ha⟩

/-- A field overwrites itself if its setter does. -/
theorem overwrites_of (h : ∀ a b s, set b (set a s) = set b s) :
    (Field.of name absence c get set).Overwrites := by
  intro u u' hu hu' s
  obtain ⟨a, rfl⟩ := exists_set_of_sets hu
  obtain ⟨b, rfl⟩ := exists_set_of_sets hu'
  exact h a b s

/-- Fields commute if their setters do. -/
theorem commutes_of (h : ∀ a b s, set' b (set a s) = set a (set' b s)) :
    (Field.of name absence c get set).Commutes (Field.of name' absence' c' get' set') := by
  intro u u' hu hu' s
  obtain ⟨a, rfl⟩ := exists_set_of_sets hu
  obtain ⟨b, rfl⟩ := exists_set_of_sets hu'
  exact h a b s

end Of

end Field

/-- **Fields that do not interfere**: their names are different, a field that is set twice has the
second value, and different fields can be set in any order. -/
structure IndependentFields (fields : List (Field σ)) : Prop where
  names : (fields.map (·.name)).Nodup
  overwrites : ∀ f ∈ fields, f.Overwrites
  commutes : fields.Pairwise Field.Commutes

/-- Any two fields of different names can be set in any order. -/
theorem IndependentFields.commutes_of_ne (h : IndependentFields fields) {f g : Field σ}
    (hf : f ∈ fields) (hg : g ∈ fields) (hne : f.name ≠ g.name) : f.Commutes g := by
  have : Std.Symm fun f g : Field σ => f.Commutes g := ⟨fun f g hfg => hfg.symm⟩
  exact h.commutes.forall hf hg fun hfg => hne (congrArg Field.name hfg)

/-! ## One member set to a value -/

/-- **Reading goes on in the same way after a field has been set**, if no member of its name is to
come: what is read is what would have been read, with the field set. -/
theorem Reads.frame (hfields : IndependentFields fields) {f : Field σ} (hf : f ∈ fields)
    {u : σ → σ} (hu : f.Sets u) (h : Reads fields around seen s members out)
    (hnone : ∀ m ∈ members, m.1 ≠ f.name) {taken : List String}
    (htaken : ∀ x, x ∈ taken ↔ x = f.name ∨ x ∈ seen) :
    ∃ taken', Reads fields around taken (u s) members (taken', u out.2) ∧
      ∀ x, x ∈ taken' ↔ x = f.name ∨ x ∈ out.1 := by
  induction h generalizing taken with
  | nil seen s => exact ⟨taken, .nil taken (u s), htaken⟩
  | other hname hwhole hfault rest ih =>
    obtain ⟨taken', hrest, htaken'⟩ := ih (List.forall_mem_cons.mp hnone).2 htaken
    exact ⟨taken', .other hname hwhole hfault hrest, htaken'⟩
  | @field seen s name v members out g set hg hname hseen hbroken hfault hset rest ih =>
    obtain ⟨hne, hnone⟩ := List.forall_mem_cons.mp hnone
    have hnew : name ∉ taken := by
      rw [htaken, not_or]
      exact ⟨hne, hseen⟩
    have htaken' : ∀ x, x ∈ name :: taken ↔ x = f.name ∨ x ∈ name :: seen := by
      intro x
      rw [List.mem_cons, List.mem_cons, htaken]
      exact or_left_comm
    obtain ⟨taken', hrest, hout⟩ := ih hnone htaken'
    -- The other field is set before this one, or after it.
    have hcommutes : set (u s) = u (set s) :=
      hfields.commutes_of_ne hf hg (hname ▸ Ne.symm hne) u set hu ⟨around, v, hset⟩ s
    refine ⟨taken', .field hg hname hnew hbroken hfault hset ?_, hout⟩
    rw [hcommutes]
    exact hrest

/-- **Members of which one is set to a value** are read as before, with its field set to it. -/
theorem Reads.put (hfields : IndependentFields fields) {f : Field σ} (hf : f ∈ fields)
    {u : σ → σ} {v : Json} (hset : f.decode around v = .ok u) (hv : ∀ x, v ≠ .fault x)
    {members' : List (String × Json)} (hputs : Json.Puts f.name v members members')
    (h : Reads fields around [] s members out) :
    ∃ taken, Reads fields around [] s members' (taken, u out.2) ∧
      ∀ x, x ∈ taken ↔ x = f.name ∨ x ∈ out.1 := by
  have hu : f.Sets u := ⟨around, v, hset⟩
  cases hputs with
  | replaced before after old =>
    obtain ⟨mid, hbefore, hafter⟩ := append_iff.mp h
    cases hafter with
    | other hname hwhole hfault rest => exact absurd rfl (hname f hf)
    | @field _ _ _ _ _ _ g set hg hname hseen hbroken hfault hold rest =>
      -- The member that is replaced was one of this field.
      obtain rfl : g = f := List.inj_on_of_nodup_map hfields.names hg hf hname
      have hnone := rest.ne_of_mem_seen hf List.mem_cons_self
      have htaken : ∀ x, x ∈ g.name :: mid.1 ↔ x = g.name ∨ x ∈ g.name :: mid.1 := by simp
      obtain ⟨taken, hrest, hout⟩ := rest.frame hfields hf hu hnone htaken
      rw [hfields.overwrites g hf set u ⟨around, old, hold⟩ hu] at hrest
      exact ⟨taken, append_iff.mpr
        ⟨mid, hbefore, .field hf rfl hseen (hv _) (hv _) hset hrest⟩, hout⟩
  | added before after hnone =>
    obtain ⟨mid, hbefore, hafter⟩ := append_iff.mp h
    rw [List.forall_mem_append] at hnone
    have hseen : f.name ∉ mid.1 := by
      intro hmem
      rcases hbefore.mem_seen hmem with hnil | ⟨m, hm, hname⟩
      · exact List.not_mem_nil hnil
      · exact hnone.1 m hm hname
    obtain ⟨taken, hrest, hout⟩ := hafter.frame hfields hf hu hnone.2 fun x => List.mem_cons
    exact ⟨taken, append_iff.mpr
      ⟨mid, hbefore, .field hf rfl hseen (hv _) (hv _) hset hrest⟩, hout⟩

/-- **An object in which the member of a field is set to a value** that the field takes is read as
the same record with this field set. -/
theorem record_object_put (hfields : IndependentFields fields) {f : Field σ} (hf : f ∈ fields)
    {u : σ → σ} {v : Json} (hset : f.decode (around + 1) v = .ok u) (hv : ∀ x, v ≠ .fault x)
    {members' : List (String × Json)} (hputs : Json.Puts f.name v members members') {start : σ}
    (h : (record fields start).decode around (.object members) = .ok s) :
    (record fields start).decode around (.object members') = .ok (u s) := by
  obtain ⟨⟨seen, s'⟩, hread, hcheck⟩ := bind_eq_ok_iff.mp h
  have hreads := (readMembers_eq_ok_iff hfields.names).mp hread
  obtain ⟨taken, hput, htaken⟩ := hreads.put hfields hf hset hv hputs
  refine bind_eq_ok_iff.mpr ⟨_, (readMembers_eq_ok_iff hfields.names).mpr hput, ?_⟩
  simp only [ite_eq_iff, reduceCtorEq, and_false, or_false, Except.ok.injEq, List.all_eq_true,
    Bool.or_eq_true, List.contains_iff_mem] at hcheck ⊢
  obtain ⟨hneeded, rfl⟩ := hcheck
  -- What had been given is still there.
  refine ⟨fun g hg => (hneeded g hg).imp_right fun hmem => ?_, rfl⟩
  exact (htaken g.name).mpr (Or.inr hmem)

/-- **The member of a field has been read**: the field takes its value, and is set to it. -/
theorem record_object_member (hfields : IndependentFields fields) {f : Field σ} (hf : f ∈ fields)
    {v : Json} (hv : ∀ x, v ≠ .fault x) {start : σ}
    (h : (record fields start).decode around (.object (before ++ (f.name, v) :: after)) = .ok s) :
    ∃ u, f.decode (around + 1) v = .ok u ∧ u s = s := by
  obtain ⟨r, hread, -⟩ := bind_eq_ok_iff.mp h
  have hreads := (readMembers_eq_ok_iff hfields.names).mp hread
  obtain ⟨mid, -, hafter⟩ := Reads.append_iff.mp hreads
  cases hafter with
  | other hname hwhole hfault rest => exact absurd rfl (hname f hf)
  | @field _ _ _ _ _ _ g u hg hname hseen hbroken hfault hset rest =>
    obtain rfl : g = f := List.inj_on_of_nodup_map hfields.names hg hf hname
    -- To set the member to the value that it has changes nothing.
    have hsame := record_object_put hfields hf hset hv (.replaced before after v) h
    exact ⟨u, hset, Except.ok.inj (hsame.symm.trans h)⟩

/-! ## One item replaced -/

/-- Lists that correspond, with an element replaced in both. -/
theorem forall₂_append_cons {R : α → β → Prop} {front back : List α} {a : α} {bs : List β}
    (h : List.Forall₂ R (front ++ a :: back) bs) :
    ∃ b, bs[front.length]? = some b ∧ R a b ∧
      ∀ a' b', R a' b' → List.Forall₂ R (front ++ a' :: back) (bs.set front.length b') := by
  induction front generalizing bs with
  | nil =>
    cases h with
    | cons hab hrest => exact ⟨_, rfl, hab, fun a' b' h' => .cons h' hrest⟩
  | cons x front ih =>
    cases h with
    | cons hx hrest =>
      obtain ⟨b, hb, hab, hset⟩ := ih hrest
      exact ⟨b, hb, hab, fun a' b' h' => .cons hx (hset a' b' h')⟩

/-- **A list in which one item is replaced** is read as the same list with one element replaced. -/
theorem list_array_replaced {c : Codec α} {front back : List Json} {v : Json} {as : List α}
    (h : (list c).decode around (.array (front ++ v :: back)) = .ok as) :
    ∃ a, as[front.length]? = some a ∧ c.decode (around + 1) v = .ok a ∧
      ∀ v' b, c.decode (around + 1) v' = .ok b →
        (list c).decode around (.array (front ++ v' :: back)) = .ok (as.set front.length b) := by
  obtain ⟨a, ha, hv, hset⟩ := forall₂_append_cons (mapM_eq_ok_iff.mp h)
  exact ⟨a, ha, hv, fun v' b hb => mapM_eq_ok_iff.mpr (hset v' b hb)⟩

end Codec

end CatalogSearch
