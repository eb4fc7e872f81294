import Mathlib.Data.List.Forall2
import Mathlib.Logic.Basic

/-! # Results that may be failures

What it takes for a step by step computation to succeed, and which failure it ends with otherwise.

* **`map_eq_ok_iff`**, **`bind_eq_ok_iff`**: success of a step and what follows it;
* **`mapError_eq_ok_iff`**, **`toOption_eq_some_iff`**: success told in another way;
* **`bind_map`**, **`map_map`**, **`map_mapError`**: a result that is changed in the end;
* **`bind_congr_of_map_eq`**, **`map_congr_of_map_eq`**: what depends on how a step looks;
* **`map_eq_error_iff`**, **`bind_eq_error_iff`**, **`mapError_eq_error_iff`**: failure;
* **`mapM_eq_ok_iff`**, **`mapM_eq_ok_iff_of_mem`**, **`mem_iff_of_mapM_eq_ok`**: success with all
  elements of a list;
* **`mapM_eq_error_iff`**: the first failure among them (**`FirstFault`**);
* **`exists_firstFault_iff`**, **`firstFault_cons_iff`**: where there is a first fault, and which
  one;
* **`decidableExistsOk`**, **`decidableExistsOkAnd`**, **`decidableForallOk`**: statements about
  successes can be decided. -/

namespace CatalogSearch

variable {ε δ α β : Type} {x : Except ε α}

/-- A result is changed if there is one. -/
theorem map_eq_ok_iff {f : α → β} {b : β} : x.map f = .ok b ↔ ∃ a, x = .ok a ∧ f a = b := by
  cases x with
  | error e => simp [Except.map]
  | ok a => simp [Except.map]

/-- One step follows another if that succeeds. -/
theorem bind_eq_ok_iff {f : α → Except ε β} {b : β} :
    (x >>= f) = .ok b ↔ ∃ a, x = .ok a ∧ f a = .ok b := by
  cases x with
  | error e => simp [bind, Except.bind]
  | ok a => simp [bind, Except.bind]

/-- A failure told in other words is no success. -/
theorem mapError_eq_ok_iff {f : ε → δ} {a : α} : x.mapError f = .ok a ↔ x = .ok a := by
  cases x with
  | error e =>
    show Except.error (f e) = Except.ok a ↔ Except.error e = Except.ok a
    simp
  | ok b =>
    show Except.ok b = Except.ok a ↔ Except.ok b = Except.ok a
    simp

/-- The option of a result has a value if the result is one. -/
theorem toOption_eq_some_iff {a : α} : x.toOption = some a ↔ x = .ok a := by
  cases x with
  | error e => simp [Except.toOption]
  | ok a => simp [Except.toOption]

/-- A result that is changed in the end is changed after its last step. -/
theorem bind_map {γ : Type} (f : α → Except ε β) (g : β → γ) :
    (x.bind f).map g = x.bind fun a => (f a).map g := by
  cases x with
  | error e => rfl
  | ok a => rfl

/-- A result that is changed twice. -/
theorem map_map {γ : Type} (f : α → β) (g : β → γ) : (x.map f).map g = x.map (g ∘ f) := by
  cases x with
  | error e => rfl
  | ok a => rfl

/-- A result is changed while its failure is told in other words. -/
theorem map_mapError (f : ε → δ) (g : α → β) : (x.mapError f).map g = (x.map g).mapError f := by
  cases x with
  | error e => rfl
  | ok a => rfl

/-- **Steps that look the same** go on in the same way if what follows them depends on no more than
how they look. -/
theorem bind_congr_of_map_eq {γ : Type} {y : Except ε α} {p q : α → γ} {f g : α → Except ε β}
    (h : x.map p = y.map q) (hfg : ∀ a b, p a = q b → f a = g b) : x.bind f = y.bind g := by
  cases x with
  | error e =>
    cases y with
    | error e' => exact congrArg Except.error (Except.error.inj h)
    | ok b => cases h
  | ok a =>
    cases y with
    | error e' => cases h
    | ok b => exact hfg a b (Except.ok.inj h)

/-- Results that look the same are changed in the same way if nothing depends on more than how they
look. -/
theorem map_congr_of_map_eq {γ : Type} {y : Except ε α} {p q : α → γ} {f g : α → β}
    (h : x.map p = y.map q) (hfg : ∀ a b, p a = q b → f a = g b) : x.map f = y.map g :=
  bind_congr_of_map_eq h fun a b hab => congrArg Except.ok (hfg a b hab)

/-! ## Failure -/

/-- A result that is changed fails as it does unchanged. -/
theorem map_eq_error_iff {f : α → β} {e : ε} : x.map f = .error e ↔ x = .error e := by
  cases x with
  | error e => simp [Except.map]
  | ok a => simp [Except.map]

/-- A step by step computation fails with its first step, or after it. -/
theorem bind_eq_error_iff {f : α → Except ε β} {e : ε} :
    (x >>= f) = .error e ↔ x = .error e ∨ ∃ a, x = .ok a ∧ f a = .error e := by
  cases x with
  | error e => simp [bind, Except.bind]
  | ok a => simp [bind, Except.bind]

/-- A failure told in other words is that failure. -/
theorem mapError_eq_error_iff {f : ε → δ} {d : δ} :
    x.mapError f = .error d ↔ ∃ e, x = .error e ∧ f e = d := by
  cases x with
  | error e =>
    show Except.error (f e) = Except.error d ↔ ∃ e', Except.error e = Except.error e' ∧ f e' = d
    simp
  | ok b =>
    show Except.ok b = Except.error d ↔ ∃ e', Except.ok b = Except.error e' ∧ f e' = d
    simp

/-! ## Lists -/

/-- **The first fault in a list**: the fault of an element after others that have none. -/
def FirstFault (fault : α → ε → Prop) (l : List α) (e : ε) : Prop :=
  ∃ before a after, l = before ++ a :: after ∧ (∀ b ∈ before, ∀ e, ¬ fault b e) ∧ fault a e

/-- The first fault in a list is that of its head, or of what follows a head without faults. -/
theorem firstFault_cons_iff {fault : α → ε → Prop} {a : α} {l : List α} {e : ε} :
    FirstFault fault (a :: l) e ↔ fault a e ∨ (∀ e, ¬ fault a e) ∧ FirstFault fault l e := by
  constructor
  · rintro ⟨before, b, after, hl, hbefore, hb⟩
    cases before with
    | nil =>
      obtain ⟨rfl, rfl⟩ := List.cons.inj hl
      exact Or.inl hb
    | cons c before =>
      obtain ⟨rfl, rfl⟩ := List.cons.inj hl
      obtain ⟨hc, hbefore⟩ := List.forall_mem_cons.mp hbefore
      exact Or.inr ⟨hc, before, b, after, rfl, hbefore, hb⟩
  · rintro (ha | ⟨ha, before, b, after, rfl, hbefore, hb⟩)
    · exact ⟨[], a, l, rfl, fun _ hmem => absurd hmem List.not_mem_nil, ha⟩
    · exact ⟨a :: before, b, after, rfl, List.forall_mem_cons.mpr ⟨ha, hbefore⟩, hb⟩

/-- An empty list has no first fault. -/
theorem not_firstFault_nil {fault : α → ε → Prop} {e : ε} : ¬ FirstFault fault [] e := by
  rintro ⟨before, a, after, hl, -⟩
  simp at hl

/-- The first fault in the images of some elements. -/
theorem firstFault_map_iff {γ : Type} {fault : β → ε → Prop} {f : γ → β} {l : List γ} {e : ε} :
    FirstFault fault (l.map f) e ↔ FirstFault (fun c e => fault (f c) e) l e := by
  induction l with
  | nil => exact iff_of_false not_firstFault_nil not_firstFault_nil
  | cons c l ih => rw [List.map_cons, firstFault_cons_iff, firstFault_cons_iff, ih]

/-- Elements with the same faults have the same first fault. -/
theorem firstFault_congr {fault fault' : α → ε → Prop} {l : List α} {e : ε}
    (h : ∀ a ∈ l, ∀ e, fault a e ↔ fault' a e) : FirstFault fault l e ↔ FirstFault fault' l e := by
  induction l with
  | nil => exact iff_of_false not_firstFault_nil not_firstFault_nil
  | cons a l ih =>
    obtain ⟨ha, hl⟩ := List.forall_mem_cons.mp h
    simp only [firstFault_cons_iff, ha, ih hl]

/-- There is a first fault where there is any. -/
theorem exists_firstFault_iff {fault : α → ε → Prop} {l : List α} :
    (∃ e, FirstFault fault l e) ↔ ∃ a ∈ l, ∃ e, fault a e := by
  induction l with
  | nil =>
    refine iff_of_false ?_ ?_
    · rintro ⟨e, he⟩
      exact not_firstFault_nil he
    · rintro ⟨a, ha, -⟩
      exact List.not_mem_nil ha
  | cons a l ih =>
    rw [List.exists_mem_cons_iff, ← ih]
    simp only [firstFault_cons_iff]
    by_cases ha : ∃ e, fault a e
    · obtain ⟨e, he⟩ := ha
      exact iff_of_true ⟨e, Or.inl he⟩ (Or.inl ⟨e, he⟩)
    · have hnone : ∀ e, ¬ fault a e := not_exists.mp ha
      simp only [hnone, not_false_eq_true, implies_true, true_and, false_or, exists_false]

/-- **All elements of a list succeed** if each of them does. -/
theorem mapM_eq_ok_iff {f : α → Except ε β} {l : List α} {bs : List β} :
    l.mapM f = .ok bs ↔ List.Forall₂ (fun a b => f a = .ok b) l bs := by
  induction l generalizing bs with
  | nil =>
    rw [List.mapM_nil, List.forall₂_nil_left_iff]
    constructor
    · rintro ⟨⟩
      rfl
    · rintro rfl
      rfl
  | cons a l ih =>
    rw [List.mapM_cons, bind_eq_ok_iff]
    constructor
    · rintro ⟨b, hb, h⟩
      obtain ⟨bs, hbs, ⟨⟩⟩ := bind_eq_ok_iff.mp h
      exact .cons hb (ih.mp hbs)
    · rintro (_ | ⟨hb, hbs⟩)
      exact ⟨_, hb, bind_eq_ok_iff.mpr ⟨_, ih.mpr hbs, rfl⟩⟩

/-- All elements of a list succeed as each of them is known to. -/
theorem mapM_eq_ok_iff_of_mem {f : α → Except ε β} {R : α → β → Prop} {l : List α} {bs : List β}
    (h : ∀ a ∈ l, ∀ b, f a = .ok b ↔ R a b) : l.mapM f = .ok bs ↔ List.Forall₂ R l bs := by
  rw [mapM_eq_ok_iff]
  induction l generalizing bs with
  | nil => rw [List.forall₂_nil_left_iff, List.forall₂_nil_left_iff]
  | cons a l ih =>
    obtain ⟨ha, hl⟩ := List.forall_mem_cons.mp h
    simp only [List.forall₂_cons_left_iff, ha, ih hl]

/-- What comes of all elements of a list comes of any of them. -/
theorem mem_iff_of_mapM_eq_ok {f : α → Except ε β} {l : List α} {bs : List β}
    (h : l.mapM f = .ok bs) {b : β} : b ∈ bs ↔ ∃ a ∈ l, f a = .ok b := by
  have hboth := mapM_eq_ok_iff.mp h
  clear h
  induction hboth with
  | nil => simp
  | @cons a b' l bs hab _ ih =>
    have hfirst : b = b' ↔ f a = .ok b := by
      rw [hab, Except.ok.injEq, eq_comm]
    simp only [List.mem_cons, or_and_right, exists_or, exists_eq_left, ih, hfirst]

/-- **A list fails with its first fault.** -/
theorem mapM_eq_error_iff {f : α → Except ε β} {l : List α} {e : ε} :
    l.mapM f = .error e ↔ FirstFault (fun a e => f a = .error e) l e := by
  induction l with
  | nil =>
    rw [List.mapM_nil]
    refine iff_of_false ?_ not_firstFault_nil
    rintro ⟨⟩
  | cons a l ih =>
    rw [List.mapM_cons, bind_eq_error_iff, firstFault_cons_iff, ← ih]
    refine or_congr_right ⟨?_, ?_⟩
    · rintro ⟨b, hb, h⟩
      rcases bind_eq_error_iff.mp h with hl | ⟨bs, -, ⟨⟩⟩
      refine ⟨fun e' he' => ?_, hl⟩
      rw [hb] at he'
      cases he'
    · rintro ⟨ha, hl⟩
      cases hfa : f a with
      | error e' => exact absurd hfa (ha e')
      | ok b => exact ⟨b, rfl, bind_eq_error_iff.mpr (Or.inl hl)⟩

/-! ## Decidability -/

instance decidableExistsOk (x : Except ε α) : Decidable (∃ a, x = .ok a) :=
  match x with
  | .error _ => .isFalse fun ⟨_, h⟩ => nomatch h
  | .ok a => .isTrue ⟨a, rfl⟩

instance decidableExistsOkAnd (x : Except ε α) (P : α → Prop) [DecidablePred P] :
    Decidable (∃ a, x = .ok a ∧ P a) :=
  match x with
  | .error _ => .isFalse fun ⟨_, h, _⟩ => nomatch h
  | .ok a => decidable_of_iff (P a) ⟨fun h => ⟨a, rfl, h⟩, fun ⟨_, ha, h⟩ => Except.ok.inj ha ▸ h⟩

instance decidableForallOk (x : Except ε α) (P : α → Prop) [DecidablePred P] :
    Decidable (∀ a, x = .ok a → P a) :=
  match x with
  | .error _ => .isTrue fun _ h => nomatch h
  | .ok a => decidable_of_iff (P a) ⟨fun h _ ha => Except.ok.inj ha ▸ h, fun h => h a rfl⟩

end CatalogSearch
