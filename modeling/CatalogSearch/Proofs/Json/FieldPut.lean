import CatalogSearch.Proofs.Json.Replaced

/-! # The value of a field set to another one

A record is an object with its fields as members, or an array with its fields in order. If the
fields are independent of one another, a record in which the value of one field is set anew is read
as before with only this field changed, in either form.

* **`Codec.PutsField`**: a record with the value of a field set to another one;
* **`Codec.readItems_append_iff`**: items in order are read one part after another;
* **`Codec.readItems_frame`**: reading items into a record in which a field has been set;
* **`Codec.record_put`**: what a record with the value of a field set is read as. -/

namespace CatalogSearch.Codec

variable {σ : Type} {fields before after : List (Field σ)} {f : Field σ} {around : Nat} {s t : σ}
  {front back items : List Json} {v : Json} {u : σ → σ}

/-- **A record in which the value of a field is set**: that of its member, which may have been left
out, or that of the item at its place. -/
inductive PutsField (fields : List (Field σ)) (name : String) (v : Json) : Json → Json → Prop where
  | member {members members' : List (String × Json)} (h : Json.Puts name v members members') :
    PutsField fields name v (.object members) (.object members')
  | item {front back : List Json} (old : Json)
    (hplace : (fields.map (·.name))[front.length]? = some name) :
    PutsField fields name v (.array (front ++ old :: back)) (.array (front ++ v :: back))

/-- **Items in order are read one part after another.** -/
theorem readItems_append_iff (hlength : before.length = front.length) :
    readItems around (before ++ after) s (front ++ back) = .ok t ↔
      ∃ mid, readItems around before s front = .ok mid ∧
        readItems around after mid back = .ok t := by
  induction before generalizing front s with
  | nil =>
    obtain rfl : front = [] := List.length_eq_zero_iff.mp hlength.symm
    constructor
    · intro h
      exact ⟨s, rfl, h⟩
    · rintro ⟨mid, hmid, h⟩
      obtain rfl : s = mid := Except.ok.inj hmid
      exact h
  | cons f before ih =>
    cases front with
    | nil => cases hlength
    | cons w front =>
      have hrest := fun s => ih (s := s) (Nat.succ.inj hlength)
      rw [List.cons_append, List.cons_append, readItems, readItems]
      refine bind_eq_ok_iff.trans ?_
      constructor
      · rintro ⟨set, hset, h⟩
        obtain ⟨mid, hmid, h⟩ := (hrest _).mp h
        exact ⟨mid, bind_eq_ok_iff.mpr ⟨set, hset, hmid⟩, h⟩
      · rintro ⟨mid, hmid, h⟩
        obtain ⟨set, hset, hmid⟩ := bind_eq_ok_iff.mp hmid
        exact ⟨set, hset, (hrest _).mpr ⟨mid, hmid, h⟩⟩

/-- **Items are read in the same way after a field has been set** that is none of theirs. -/
theorem readItems_frame (hcommutes : ∀ g ∈ fields, f.Commutes g) (hu : f.Sets u)
    (h : readItems around fields s items = .ok t) :
    readItems around fields (u s) items = .ok (u t) := by
  induction fields generalizing s items with
  | nil =>
    cases items with
    | nil => exact congrArg (fun x => Except.ok (u x)) (Except.ok.inj h)
    | cons w items => cases h
  | cons g fields ih =>
    obtain ⟨hg, hfields⟩ := List.forall_mem_cons.mp hcommutes
    cases items with
    | nil =>
      rw [readItems] at h ⊢
      by_cases habsence : g.absence = .always
      · rw [if_pos habsence] at h ⊢
        exact ih hfields h
      · rw [if_neg habsence] at h
        cases h
    | cons w items =>
      rw [readItems] at h ⊢
      obtain ⟨set, hset, h⟩ := bind_eq_ok_iff.mp h
      refine bind_eq_ok_iff.mpr ⟨set, hset, ?_⟩
      rw [hg u set hu ⟨around, w, hset⟩]
      exact ih hfields h

/-- A field stands at one place, and those around it have other names. -/
theorem exists_append_of_name (hnames : (fields.map (·.name)).Nodup) (hf : f ∈ fields) {i : Nat}
    (hplace : (fields.map (·.name))[i]? = some f.name) :
    ∃ before after, fields = before ++ f :: after ∧ before.length = i ∧
      ∀ g ∈ after, f.name ≠ g.name := by
  rw [List.getElem?_map, Option.map_eq_some_iff] at hplace
  obtain ⟨g, hg, hname⟩ := hplace
  obtain rfl : g = f := List.inj_on_of_nodup_map hnames (List.mem_of_getElem? hg) hf hname
  obtain ⟨hi, rfl⟩ := List.getElem?_eq_some_iff.mp hg
  have hdrop : fields.drop i = fields[i] :: fields.drop (i + 1) := List.drop_eq_getElem_cons hi
  refine ⟨fields.take i, fields.drop (i + 1), ?_, List.length_take_of_le (Nat.le_of_lt hi), ?_⟩
  · rw [← hdrop, List.take_append_drop]
  · intro g hg hname
    have hnodup : ((fields.drop i).map (·.name)).Nodup :=
      hnames.sublist ((List.drop_sublist i fields).map _)
    rw [hdrop, List.map_cons, List.nodup_cons] at hnodup
    exact hnodup.1 (List.mem_map.mpr ⟨g, hg, hname.symm⟩)

/-- Items in order of which one is set are read as the same record with its field set. -/
theorem readItems_put (hfields : IndependentFields fields) (hf : f ∈ fields)
    (hset : f.decode around v = .ok u) {old : Json}
    (hplace : (fields.map (·.name))[front.length]? = some f.name)
    (h : readItems around fields s (front ++ old :: back) = .ok t) :
    readItems around fields s (front ++ v :: back) = .ok (u t) := by
  obtain ⟨before, after, rfl, hlength, hnames⟩ := exists_append_of_name hfields.names hf hplace
  rw [readItems_append_iff hlength] at h ⊢
  obtain ⟨mid, hmid, h⟩ := h
  rw [readItems] at h
  obtain ⟨set, hold, h⟩ := bind_eq_ok_iff.mp h
  refine ⟨mid, hmid, ?_⟩
  rw [readItems]
  refine bind_eq_ok_iff.mpr ⟨u, hset, ?_⟩
  have hcommutes : ∀ g ∈ after, f.Commutes g := fun g hg =>
    hfields.commutes_of_ne hf (List.mem_append_right _ (List.mem_cons_of_mem f hg)) (hnames g hg)
  -- What comes after is read in the same way with the field set twice, and so with it set once.
  have hrest := readItems_frame hcommutes ⟨around, v, hset⟩ h
  rwa [hfields.overwrites f hf set u ⟨around, old, hold⟩ ⟨around, v, hset⟩] at hrest

/-- **A record in which the value of a field is set** to one that the field takes is read as the
same record with this field set. -/
theorem record_put (hfields : IndependentFields fields) (hf : f ∈ fields)
    (hset : f.decode (around + 1) v = .ok u) (hv : ∀ x, v ≠ .fault x) {start : σ}
    {json json' : Json} (hputs : PutsField fields f.name v json json')
    (h : (record fields start).decode around json = .ok s) :
    (record fields start).decode around json' = .ok (u s) := by
  cases hputs with
  | member hputs => exact record_object_put hfields hf hset hv hputs h
  | item old hplace => exact readItems_put hfields hf hset hplace h

end CatalogSearch.Codec
