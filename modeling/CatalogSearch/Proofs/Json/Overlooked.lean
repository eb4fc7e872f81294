import CatalogSearch.Json.Codec
import CatalogSearch.Proofs.Attempt

/-! # Parts of a JSON text that are overlooked

Of two JSON values that differ in some places, a codec may read the same, or things that only differ
where nobody looks.

* **`Codec.Overlooks`**, **`Codec.Field.Overlooks`**: changes of values that a codec does not see;
* **`Codec.changeItems`**, **`Codec.changeFields`**: changes of the items of a list, and of the
  fields of a record, whether they go by name or stand in order;
* **`Codec.Overlooks.list`**, **`Codec.OverlookedFields.overlooks_record`**: a list overlooks what
  its items overlook, and a record what its fields overlook;
* **`Codec.Overlooks.map_readDocument`**: changes of whole documents. -/

namespace CatalogSearch.Codec

variable {α β σ τ : Type}

/-- **A change that a codec overlooks**: what it reads looks the same, and it fails in the same
way. -/
def Overlooks (c : Codec α) (view : α → τ) (change : Json → Json) : Prop :=
  ∀ around v, (c.decode around (change v)).map view = (c.decode around v).map view

/-- **A change that a field overlooks**: records that looked the same look the same afterwards. -/
def Field.Overlooks (f : Field σ) (view : σ → τ) (change : Json → Json) : Prop :=
  ∀ around v s t, view s = view t →
    (f.decode around (change v)).map (fun set => view (set s)) =
      (f.decode around v).map fun set => view (set t)

/-! ## Plain values -/

section Plain

variable {c : Codec α} {view : α → τ} {change : Json → Json}

/-- Where null also reads, any other value is read as usual. -/
theorem decode_nullable_of_ne_null [Inhabited α] {around : Nat} {v : Json} (hv : v ≠ .null) :
    (nullable c).decode around v = c.decode around v := by
  cases v with
  | null => exact absurd rfl hv
  | _ => rfl

/-- Null is read apart, so it has to stay null, and nothing else may become it. -/
theorem Overlooks.nullable [Inhabited α] (h : c.Overlooks view change)
    (hnull : ∀ v, change v = .null ↔ v = .null) : (nullable c).Overlooks view change := by
  intro around v
  by_cases hv : v = .null
  · rw [(hnull v).mpr hv, hv]
  · rw [decode_nullable_of_ne_null hv,
      decode_nullable_of_ne_null fun hchange => hv ((hnull v).mp hchange)]
    exact h around v

/-- **A list with its items changed.** -/
def changeItems (change : Json → Json) : Json → Json
  | .array items => .array (items.map change)
  | v => v

/-- Nothing but lists is changed. -/
theorem changeItems_eq_iff {v w : Json} (hw : ∀ items, w ≠ .array items) :
    changeItems change v = w ↔ v = w := by
  cases v with
  | array items =>
    constructor
    · intro h
      exact absurd h.symm (hw _)
    · intro h
      exact absurd h.symm (hw _)
  | _ => rfl

/-- Items look the same if each of them does. -/
theorem map_mapM_congr {γ : Type} {f : α → Decoded β} {g : γ → Decoded β} {k : α → γ}
    {view : β → τ} (h : ∀ a, (g (k a)).map view = (f a).map view) (l : List α) :
    ((l.map k).mapM g).map (List.map view) = (l.mapM f).map (List.map view) := by
  induction l with
  | nil => rfl
  | cons a l ih =>
    rw [List.map_cons, List.mapM_cons, List.mapM_cons]
    show ((g (k a)).bind _).map _ = ((f a).bind _).map _
    rw [bind_map, bind_map]
    refine bind_congr_of_map_eq (h a) fun b b' hb => ?_
    show (((l.map k).mapM g).bind _).map _ = ((l.mapM f).bind _).map _
    rw [bind_map, bind_map]
    refine bind_congr_of_map_eq ih fun bs bs' hbs => ?_
    exact congrArg Except.ok (congrArg₂ List.cons hb hbs)

/-- **A list overlooks what its items overlook.** -/
theorem Overlooks.list (h : c.Overlooks view change) :
    (list c).Overlooks (List.map view) (changeItems change) := by
  intro around v
  cases v with
  | array items => exact map_mapM_congr (h (around + 1)) items
  | _ => rfl

end Plain

/-! ## Records -/

/-- The items of a record in order, each changed as its field is. -/
def changeInOrder (change : String → Json → Json) : List (Field σ) → List Json → List Json
  | f :: fields, v :: items => change f.name v :: changeInOrder change fields items
  | _, items => items

/-- **A record with its fields changed**, whether they go by name or stand in order. -/
def changeFields (fields : List (Field σ)) (change : String → Json → Json) : Json → Json
  | .object members => .object (members.map fun m => (m.1, change m.1 m.2))
  | .array items => .array (changeInOrder change fields items)
  | v => v

/-- A field overlooks what its codec overlooks. -/
theorem Overlooks.field {name : String} {absence : Absence} {c : Codec α} {get : σ → α}
    {set : α → σ → σ} {look : α → β} {view : σ → τ} {change : Json → Json}
    (h : c.Overlooks look change)
    (hset : ∀ a b s t, look a = look b → view s = view t → view (set a s) = view (set b t)) :
    (Field.of name absence c get set).Overlooks view change := by
  intro around v s t hst
  show ((c.decode around (change v)).map set).map _ = ((c.decode around v).map set).map _
  rw [map_map, map_map]
  exact map_congr_of_map_eq (h around v) fun a b hab => hset a b s t hab hst

/-- **Changes of fields that a record overlooks**: only its own fields are changed, what is broken
stays broken as it was, and each field overlooks its change. -/
structure OverlookedFields (fields : List (Field σ)) (view : σ → τ)
    (change : String → Json → Json) : Prop where
  others : ∀ name, (∀ f ∈ fields, f.name ≠ name) → ∀ v, change name v = v
  faults : ∀ name v x, change name v = .fault x ↔ v = .fault x
  fields : ∀ f ∈ fields, f.Overlooks view (change f.name)

/-- A member whose name and value are there is read into its field, or passed over. -/
theorem readMembers_cons (fields : List (Field σ)) (around : Nat) (seen : List String) (s : σ)
    (name : String) {v : Json} (hbroken : v ≠ .fault .broken) (hname : v ≠ .fault .name)
    (members : List (String × Json)) :
    readMembers fields around seen s ((name, v) :: members) =
      match fields.find? fun f => f.name == name with
      | none =>
        if v.isWhole then readMembers fields around seen s members else .error .malformed
      | some f =>
        if seen.contains name then .error .malformed
        else
          (f.decode around v).bind fun set =>
            readMembers fields around (name :: seen) (set s) members := by
  cases v with
  | fault x =>
    cases x with
    | broken => exact absurd rfl hbroken
    | name => exact absurd rfl hname
    | string => rfl
  | _ => rfl

namespace OverlookedFields

variable {fields : List (Field σ)} {view : σ → τ} {change : String → Json → Json}

/-- Changes of members are overlooked. -/
theorem readMembers (h : OverlookedFields fields view change) (around : Nat)
    (members : List (String × Json)) (seen : List String) {s t : σ} (hst : view s = view t) :
    (Codec.readMembers fields around seen s (members.map fun m => (m.1, change m.1 m.2))).map
        (Prod.map id view) =
      (Codec.readMembers fields around seen t members).map (Prod.map id view) := by
  induction members generalizing seen s t with
  | nil => exact congrArg (fun x => Except.ok (seen, x)) hst
  | cons m members ih =>
    obtain ⟨name, v⟩ := m
    rw [List.map_cons]
    -- Where the text breaks off, both readings end.
    by_cases hbroken : v = .fault .broken
    · rw [hbroken, (h.faults name _ _).mpr rfl]
      rfl
    by_cases hname : v = .fault .name
    · rw [hname, (h.faults name _ _).mpr rfl]
      rfl
    rw [readMembers_cons fields around seen t name hbroken hname,
      readMembers_cons fields around seen s name (fun hv => hbroken ((h.faults name v _).mp hv))
        (fun hv => hname ((h.faults name v _).mp hv))]
    cases hfind : fields.find? fun f => f.name == name with
    | none =>
      -- A member that is passed over has only to be whole.
      have hother : change name v = v := by
        refine h.others name (fun f hf hfname => ?_) v
        have hne := List.find?_eq_none.mp hfind f hf
        simp [hfname] at hne
      rw [hother]
      by_cases hwhole : v.isWhole
      · simp only [if_pos hwhole]
        exact ih seen hst
      · simp only [if_neg hwhole]
    | some f =>
      obtain rfl : f.name = name := by simpa using List.find?_some hfind
      have hfield := h.fields f (List.mem_of_find?_eq_some hfind) around v s t hst
      by_cases hseen : seen.contains f.name
      · simp only [if_pos hseen]
      · simp only [if_neg hseen, bind_map]
        exact bind_congr_of_map_eq hfield fun set set' hset => ih (f.name :: seen) hset

/-- Changes of items in order are overlooked. -/
theorem readItems {fields : List (Field σ)}
    (h : ∀ f ∈ fields, f.Overlooks view (change f.name)) (around : Nat) (items : List Json)
    {s t : σ} (hst : view s = view t) :
    (Codec.readItems around fields s (changeInOrder change fields items)).map view =
      (Codec.readItems around fields t items).map view := by
  induction fields generalizing items s t with
  | nil =>
    cases items with
    | nil => exact congrArg Except.ok hst
    | cons v items => rfl
  | cons f fields ih =>
    obtain ⟨hfield, hfields⟩ := List.forall_mem_cons.mp h
    cases items with
    | nil =>
      simp only [changeInOrder, Codec.readItems]
      by_cases habsence : f.absence = .always
      · simp only [if_pos habsence]
        have hrest := ih hfields [] hst
        rw [changeInOrder] at hrest
        · exact hrest
        · rintro _ _ _ _ _ ⟨⟩
      · simp only [if_neg habsence]
    | cons v items =>
      simp only [changeInOrder, Codec.readItems, bind_map]
      exact bind_congr_of_map_eq (hfield around v s t hst) fun set set' hset =>
        ih hfields items hset

/-- **A record overlooks what its fields overlook.** -/
theorem overlooks_record (h : OverlookedFields fields view change) (start : σ) :
    (record fields start).Overlooks view (changeFields fields change) := by
  intro around v
  cases v with
  | object members =>
    show ((Codec.readMembers fields (around + 1) [] start
      (members.map fun m => (m.1, change m.1 m.2))).bind _).map view = (Except.bind _ _).map view
    rw [bind_map, bind_map]
    refine bind_congr_of_map_eq (h.readMembers (around + 1) members [] rfl) ?_
    rintro ⟨seen, s⟩ ⟨seen', t⟩ hboth
    obtain ⟨hseen, hst⟩ := Prod.mk.inj hboth
    obtain rfl : seen = seen' := hseen
    show (ite _ (Except.ok s) _).map view = (ite _ (Except.ok t) _).map view
    split
    · exact congrArg Except.ok hst
    · rfl
  | array items => exact readItems h.fields (around + 1) items rfl
  | _ => rfl

end OverlookedFields

/-! ## Whole documents -/

/-- **A codec that overlooks a change** reads things that look the same of two documents that only
differ by it. -/
theorem Overlooks.map_readDocument {c : Codec α} {view : α → τ} {change : Json → Json}
    (h : c.Overlooks view change) {doc doc' : Json.Document}
    (hroot : change doc.root = change doc'.root) (htrailing : doc.trailing = doc'.trailing) :
    (c.readDocument doc).map view = (c.readDocument doc').map view := by
  have hdecode : (c.decode 0 doc.root).map view = (c.decode 0 doc'.root).map view := by
    rw [← h, hroot, h]
  unfold readDocument
  rw [bind_map, bind_map]
  refine bind_congr_of_map_eq hdecode fun a b hab => ?_
  rw [htrailing]
  split
  · rfl
  · exact congrArg Except.ok hab

end CatalogSearch.Codec
