import CatalogSearch.Proofs.Json.Overlooked

/-! # Records of one field

Of a record with one field, only the value of this field is read: that of its only member of the
name, or that of its only item. Members of other names make no difference.

* **`Json.isWhole_of_isPlain`**: plain values break off nowhere;
* **`Json.OnlyMember`**, **`Json.HasField`**: the value of a field;
* **`Codec.record_one_object_eq_ok_iff`**, **`Codec.record_one_eq_ok_iff`**: what is read of
  records. -/

namespace CatalogSearch

namespace Json

/-! ## Plain values -/

mutual

/-- **Plain values break off nowhere.** -/
theorem isWhole_of_isPlain : ∀ {v : Json}, v.isPlain = true → v.isWhole = true
  | .null, _ => rfl
  | .bool _, _ => rfl
  | .number _, _ => rfl
  | .string _, _ => rfl
  | .array _, h => areWhole_of_arePlain h
  | .object _, h => haveWhole_of_havePlain h

/-- Plain items break off nowhere. -/
theorem areWhole_of_arePlain : ∀ {items : List Json}, arePlain items = true → areWhole items = true
  | [], _ => rfl
  | item :: items, h => by
    rw [arePlain, Bool.and_eq_true] at h
    rw [areWhole, isWhole_of_isPlain h.1, areWhole_of_arePlain h.2]
    rfl

/-- Plain members break off nowhere. -/
theorem haveWhole_of_havePlain :
    ∀ {members : List (String × Json)}, havePlain members = true → haveWhole members = true
  | [], _ => rfl
  | (_, value) :: members, h => by
    rw [havePlain, Bool.and_eq_true] at h
    rw [haveWhole, isWhole_of_isPlain h.1, haveWhole_of_havePlain h.2]
    rfl

end

/-- The items of a plain array are plain. -/
theorem isPlain_of_mem {items : List Json} (h : (Json.array items).isPlain = true) {item : Json}
    (hitem : item ∈ items) : item.isPlain = true := by
  rw [isPlain] at h
  induction items with
  | nil => cases hitem
  | cons first items ih =>
    rw [arePlain, Bool.and_eq_true] at h
    rcases List.mem_cons.mp hitem with rfl | hitem
    · exact h.1
    · exact ih h.2 hitem

/-- The values in a plain object are plain. -/
theorem isPlain_of_mem_members {members : List (String × Json)}
    (h : (Json.object members).isPlain = true) {m : String × Json} (hm : m ∈ members) :
    m.2.isPlain = true := by
  rw [isPlain] at h
  induction members with
  | nil => cases hm
  | cons first members ih =>
    rw [havePlain, Bool.and_eq_true] at h
    rcases List.mem_cons.mp hm with rfl | hm
    · exact h.1
    · exact ih h.2 hm

/-- What is in an object is not nested deeper. -/
theorem depth_le_depthOfMembers {members : List (String × Json)} {m : String × Json}
    (hm : m ∈ members) : m.2.depth ≤ depthOfMembers members := by
  induction members with
  | nil => cases hm
  | cons first members ih =>
    rw [depthOfMembers]
    rcases List.mem_cons.mp hm with rfl | hm
    · exact Nat.le_max_left ..
    · exact Nat.le_trans (ih hm) (Nat.le_max_right ..)

/-! ## The value of a field -/

/-- **The only member of a name** has this value. -/
def OnlyMember (members : List (String × Json)) (name : String) (v : Json) : Prop :=
  members.filter (·.1 = name) = [(name, v)]

/-- The only member of a name is a member. -/
theorem OnlyMember.mem {members : List (String × Json)} {name : String} {v : Json}
    (h : OnlyMember members name v) : (name, v) ∈ members := by
  have hmem : (name, v) ∈ members.filter (·.1 = name) := by
    rw [h]
    exact List.mem_singleton_self _
  exact (List.mem_filter.mp hmem).1

/-- **The value of the field of a record** that has no others; none where it is left out. It may
stand among members of other names, or alone in order. -/
inductive HasField (name : String) : Json → Option Json → Prop where
  | leftOut (members : List (String × Json)) (h : ∀ m ∈ members, m.1 ≠ name) :
    HasField name (.object members) none
  | member (members : List (String × Json)) (v : Json) (h : OnlyMember members name v) :
    HasField name (.object members) (some v)
  | noItem : HasField name (.array []) none
  | item (v : Json) : HasField name (.array [v]) (some v)

end Json

namespace Codec

variable {σ : Type} {f : Field σ} {around : Nat} {s : σ}

/-! ## Members -/

/-- A plain member of another name is passed over. -/
theorem readMembers_one_other {seen : List String} {m : String × Json}
    {members : List (String × Json)} (hname : m.1 ≠ f.name) (hplain : m.2.isPlain = true) :
    readMembers [f] around seen s (m :: members) = readMembers [f] around seen s members := by
  obtain ⟨name, v⟩ := m
  have hfind : [f].find? (fun f => f.name == name) = none := by
    rw [List.find?_singleton, if_neg (by simpa using hname.symm)]
  have hbroken : v ≠ .fault .broken := by
    rintro rfl
    cases hplain
  have hfault : v ≠ .fault .name := by
    rintro rfl
    cases hplain
  rw [readMembers_cons _ _ _ _ _ hbroken hfault, hfind]
  simp only [if_pos (Json.isWhole_of_isPlain hplain)]

/-- A plain member of the name is read, unless there has been one. -/
theorem readMembers_one_same {seen : List String} {v : Json} {members : List (String × Json)}
    (hplain : v.isPlain = true) :
    readMembers [f] around seen s ((f.name, v) :: members) =
      if seen.contains f.name then .error .malformed
      else (f.decode around v).bind fun set =>
        readMembers [f] around (f.name :: seen) (set s) members := by
  have hfind : [f].find? (fun g => g.name == f.name) = some f := by
    rw [List.find?_singleton, if_pos (beq_self_eq_true f.name)]
  have hbroken : v ≠ .fault .broken := by
    rintro rfl
    cases hplain
  have hfault : v ≠ .fault .name := by
    rintro rfl
    cases hplain
  rw [readMembers_cons _ _ _ _ _ hbroken hfault, hfind]

/-- **Once the field has been read**, no other member may have its name. -/
theorem readMembers_one_of_seen {members : List (String × Json)}
    (hplain : ∀ m ∈ members, m.2.isPlain = true) {r : List String × σ} :
    readMembers [f] around [f.name] s members = .ok r ↔
      (∀ m ∈ members, m.1 ≠ f.name) ∧ r = ([f.name], s) := by
  induction members with
  | nil =>
    rw [readMembers, Except.ok.injEq, eq_comm]
    simp
  | cons m members ih =>
    obtain ⟨hm, hmembers⟩ := List.forall_mem_cons.mp hplain
    by_cases hname : m.1 = f.name
    · obtain ⟨name, v⟩ := m
      obtain rfl : name = f.name := hname
      rw [readMembers_one_same hm, if_pos (by simp)]
      constructor
      · rintro ⟨⟩
      · rintro ⟨hnone, -⟩
        exact absurd rfl (hnone _ List.mem_cons_self)
    · rw [readMembers_one_other hname hm, ih hmembers, List.forall_mem_cons]
      simp [hname]

/-- **The members of a record of one field**: none of the name, or a single one, which is read. -/
theorem readMembers_one_eq_ok_iff {members : List (String × Json)}
    (hplain : ∀ m ∈ members, m.2.isPlain = true) {r : List String × σ} :
    readMembers [f] around [] s members = .ok r ↔
      ((∀ m ∈ members, m.1 ≠ f.name) ∧ r = ([], s)) ∨
        ∃ v set, Json.OnlyMember members f.name v ∧ f.decode around v = .ok set ∧
          r = ([f.name], set s) := by
  induction members with
  | nil =>
    rw [readMembers, Except.ok.injEq, eq_comm]
    simp [Json.OnlyMember]
  | cons m members ih =>
    obtain ⟨hm, hmembers⟩ := List.forall_mem_cons.mp hplain
    by_cases hname : m.1 = f.name
    · -- This is the member of the name, and there has to be no other.
      obtain ⟨name, v⟩ := m
      obtain rfl : name = f.name := hname
      have honly : ∀ w, Json.OnlyMember ((f.name, v) :: members) f.name w ↔
          w = v ∧ ∀ m ∈ members, m.1 ≠ f.name := by
        intro w
        rw [Json.OnlyMember, List.filter_cons_of_pos (by simp), List.cons.injEq, Prod.mk.injEq,
          List.filter_eq_nil_iff, @eq_comm _ v w]
        simp only [true_and, decide_eq_true_eq, ne_eq]
      rw [readMembers_one_same hm, if_neg (by simp)]
      refine bind_eq_ok_iff.trans ?_
      simp only [readMembers_one_of_seen hmembers, honly]
      constructor
      · rintro ⟨set, hset, hnone, rfl⟩
        exact Or.inr ⟨v, set, ⟨rfl, hnone⟩, hset, rfl⟩
      · rintro (⟨hnone, -⟩ | ⟨w, set, ⟨rfl, hnone⟩, hset, rfl⟩)
        · exact absurd rfl (hnone _ List.mem_cons_self)
        · exact ⟨set, hset, hnone, rfl⟩
    · have honly : ∀ w, Json.OnlyMember (m :: members) f.name w ↔
          Json.OnlyMember members f.name w := by
        intro w
        rw [Json.OnlyMember, List.filter_cons_of_neg (by simpa using hname), Json.OnlyMember]
      rw [readMembers_one_other hname hm, ih hmembers, List.forall_mem_cons]
      simp only [honly, ne_eq, hname, not_false_eq_true, true_and]

/-! ## Records -/

/-- **What is read of an object**: the only member of the name, or nothing where that may be. -/
theorem record_one_object_eq_ok_iff {start : σ} {members : List (String × Json)}
    (hplain : (Json.object members).isPlain = true) :
    (record [f] start).decode around (.object members) = .ok s ↔
      ((∀ m ∈ members, m.1 ≠ f.name) ∧ f.absence ≠ .never ∧ s = start) ∨
        ∃ v set, Json.OnlyMember members f.name v ∧ f.decode (around + 1) v = .ok set ∧
          s = set start := by
  have hmembers : ∀ m ∈ members, m.2.isPlain = true := fun m => Json.isPlain_of_mem_members hplain
  refine bind_eq_ok_iff.trans ?_
  simp only [readMembers_one_eq_ok_iff hmembers, List.all_cons, List.all_nil, Bool.and_true]
  constructor
  · rintro ⟨r, ⟨hnone, rfl⟩ | ⟨v, set, honly, hset, rfl⟩, hr⟩
    · -- A field that is left out must be one that may be.
      by_cases habsence : f.absence = .never
      · simp [habsence] at hr
      · have hs : start = s := by simpa [habsence] using hr
        exact Or.inl ⟨hnone, habsence, hs.symm⟩
    · have hs : set start = s := by simpa using hr
      exact Or.inr ⟨v, set, honly, hset, hs.symm⟩
  · rintro (⟨hnone, habsence, rfl⟩ | ⟨v, set, honly, hset, rfl⟩)
    · exact ⟨([], s), Or.inl ⟨hnone, rfl⟩, by simp [habsence]⟩
    · exact ⟨([f.name], set start), Or.inr ⟨v, set, honly, hset, rfl⟩, by simp⟩

/-- **What is read of items in order**: the only item, or nothing where that may be. -/
theorem record_one_array_eq_ok_iff {start : σ} {items : List Json} :
    (record [f] start).decode around (.array items) = .ok s ↔
      (items = [] ∧ f.absence = .always ∧ s = start) ∨
        ∃ v set, items = [v] ∧ f.decode (around + 1) v = .ok set ∧ s = set start := by
  show readItems (around + 1) [f] start items = _ ↔ _
  match items with
  | [] =>
    rw [readItems, readItems]
    by_cases habsence : f.absence = .always
    · simp [habsence, eq_comm]
    · simp [habsence]
  | [v] =>
    rw [readItems]
    refine bind_eq_ok_iff.trans ?_
    simp [readItems, eq_comm]
  | v :: w :: items =>
    rw [readItems]
    refine bind_eq_ok_iff.trans ?_
    simp [readItems]

/-- **What is read of a record of one field** that may be left out everywhere. -/
theorem record_one_eq_ok_iff {start : σ} {v : Json} (habsence : f.absence = .always)
    (hplain : v.isPlain = true) :
    (record [f] start).decode around v = .ok s ↔
      (v.HasField f.name none ∧ s = start) ∨
        ∃ w set, v.HasField f.name (some w) ∧ f.decode (around + 1) w = .ok set ∧
          s = set start := by
  cases v with
  | object members =>
    rw [record_one_object_eq_ok_iff hplain, habsence]
    constructor
    · rintro (⟨hnone, -, rfl⟩ | ⟨w, set, honly, hset, rfl⟩)
      · exact Or.inl ⟨.leftOut members hnone, rfl⟩
      · exact Or.inr ⟨w, set, .member members w honly, hset, rfl⟩
    · rintro (⟨hfield, rfl⟩ | ⟨w, set, hfield, hset, rfl⟩)
      · cases hfield with
        | leftOut _ hnone => exact Or.inl ⟨hnone, by simp, rfl⟩
      · cases hfield with
        | member _ _ honly => exact Or.inr ⟨w, set, honly, hset, rfl⟩
  | array items =>
    rw [record_one_array_eq_ok_iff]
    constructor
    · rintro (⟨rfl, -, rfl⟩ | ⟨w, set, rfl, hset, rfl⟩)
      · exact Or.inl ⟨.noItem, rfl⟩
      · exact Or.inr ⟨w, set, .item w, hset, rfl⟩
    · rintro (⟨hfield, rfl⟩ | ⟨w, set, hfield, hset, rfl⟩)
      · cases hfield with
        | noItem => exact Or.inl ⟨rfl, habsence, rfl⟩
      · cases hfield with
        | item _ => exact Or.inr ⟨w, set, rfl, hset, rfl⟩
  | _ =>
    -- Nothing else is a record.
    constructor
    · rintro ⟨⟩
    · rintro (⟨⟨⟩, -⟩ | ⟨_, _, ⟨⟩, -⟩)

end Codec

end CatalogSearch
