import CatalogSearch.Proofs.Json.Replaced
import CatalogSearch.Proofs.Json.Written

/-! # What is written is read back

A codec keeps a value if it reads from what it writes the value again. A codec made of others keeps
what these keep: a list its elements, and a record its fields. Then the value is also read back from
its text, in either layout.

* **`Codec.Keeps`**: a codec writes a value in words and reads it back;
* **`Codec.Keeps.text`**, **`Codec.Keeps.optional`**, **`Codec.Keeps.nullable`**,
  **`Codec.Keeps.list`**: plain values;
* **`Codec.KeepsFields`**, **`Codec.Keeps.record`**: records;
* **`Codec.Keeps.readText_writeText`**, **`Codec.Keeps.readText_pretty`**: texts. -/

namespace CatalogSearch.Codec

variable {α σ : Type} {c : Codec α} {around : Nat}

/-- **A codec keeps a value**: with some arrays and objects around it, the value is written in
words, and read back from them. -/
structure Keeps (c : Codec α) (around : Nat) (a : α) : Prop where
  wordy : (c.encode a).Wordy
  decode_encode : c.decode around (c.encode a) = .ok a

/-- What is kept with whatever stands around it is restored. -/
theorem restores_of_keeps {a : α} (h : ∀ around, c.Keeps around a) : c.Restores a :=
  fun around => (h around).decode_encode

/-! ## Plain values -/

/-- Where null stands for none, any other value is read as usual. -/
theorem decode_optional_of_ne_null {v : Json} (hv : v ≠ .null) :
    (optional c).decode around v = (c.decode around v).map some := by
  cases v with
  | null => exact absurd rfl hv
  | _ => rfl

namespace Keeps

/-- Strings are kept. -/
theorem text (around : Nat) (s : String) : Codec.text.Keeps around s := ⟨.string s, rfl⟩

/-- **A value that may be missing is kept**, if it is kept where there is one. Null stands for none,
so nothing else may be written as null. -/
theorem optional {a : Option α} (h : ∀ b, a = some b → c.Keeps around b)
    (hnull : ∀ b, c.encode b ≠ .null) : (optional c).Keeps around a := by
  cases a with
  | none => exact ⟨.null, rfl⟩
  | some b =>
    obtain ⟨hwordy, hdecode⟩ := h b rfl
    refine ⟨hwordy, (decode_optional_of_ne_null (hnull b)).trans ?_⟩
    rw [hdecode]
    rfl

/-- A value for which null may stand is kept, if it is written otherwise. -/
theorem nullable [Inhabited α] {a : α} (h : c.Keeps around a) (hnull : c.encode a ≠ .null) :
    (nullable c).Keeps around a :=
  ⟨h.wordy, (decode_nullable_of_ne_null hnull).trans h.decode_encode⟩

/-- Optional strings are kept. -/
theorem optionalText (around : Nat) (s : Option String) :
    (Codec.optional Codec.text).Keeps around s :=
  .optional (fun b _ => .text around b) fun _ => Json.noConfusion

/-- **A list is kept with its elements.** -/
theorem list {as : List α} (h : ∀ a ∈ as, c.Keeps (around + 1) a) : (list c).Keeps around as where
  wordy := by
    refine .array fun v hv => ?_
    obtain ⟨a, ha, rfl⟩ := List.mem_map.mp hv
    exact (h a ha).wordy
  decode_encode := by
    show (as.map c.encode).mapM (c.decode (around + 1)) = .ok as
    rw [mapM_eq_ok_iff, List.forall₂_map_left_iff, List.forall₂_same]
    exact fun a ha => (h a ha).decode_encode

/-- Lists of strings are kept. -/
theorem texts (around : Nat) (ss : List String) : (Codec.list Codec.text).Keeps around ss :=
  .list fun s _ => .text (around + 1) s

end Keeps

/-! ## Records -/

/-- **Fields that are kept**: written in words, and read back one after another into `t`, they make
it the record `s` that they are from. -/
inductive KeepsFields (around : Nat) (s : σ) : List (Field σ) → σ → Prop where
  | nil : KeepsFields around s [] s
  | cons {f : Field σ} {fields : List (Field σ)} {t : σ} {u : σ → σ} (hwordy : (f.encode s).Wordy)
    (hset : f.decode around (f.encode s) = .ok u) (rest : KeepsFields around s fields (u t)) :
    KeepsFields around s (f :: fields) t

variable {fields : List (Field σ)} {s t : σ}

/-- **A field is kept if its codec keeps what it holds.** -/
theorem KeepsFields.of {name : String} {absence : Absence} {get : σ → α} {set : α → σ → σ}
    (h : c.Keeps around (get s)) (rest : KeepsFields around s fields (set (get s) t)) :
    KeepsFields around s (.of name absence c get set :: fields) t :=
  .cons h.wordy (Field.decode_of h.decode_encode) rest

/-- Fields that are kept are written in words. -/
theorem KeepsFields.wordy (h : KeepsFields around s fields t) :
    ∀ f ∈ fields, (f.encode s).Wordy := by
  induction h with
  | nil => exact fun f hf => absurd hf List.not_mem_nil
  | cons hwordy hset rest ih => exact List.forall_mem_cons.mpr ⟨hwordy, ih⟩

/-- **The members of a record that is kept** are read one by one into it, if none of their names has
been taken. -/
theorem KeepsFields.reads {all : List (Field σ)} (h : KeepsFields around s fields t)
    (hnames : (fields.map (·.name)).Nodup) (hall : ∀ f ∈ fields, f ∈ all) {seen : List String}
    (hseen : ∀ f ∈ fields, f.name ∉ seen) :
    Reads all around seen t (fields.map fun f => (f.name, f.encode s))
      ((fields.map (·.name)).reverse ++ seen, s) := by
  -- Each member takes the name of its field, which no later one has.
  induction h generalizing seen with
  | nil => exact .nil seen s
  | @cons f fields t u hwordy hset rest ih =>
    rw [List.map_cons, List.nodup_cons] at hnames
    obtain ⟨hname, hnames⟩ := hnames
    obtain ⟨hf, hfields⟩ := List.forall_mem_cons.mp hall
    obtain ⟨hnew, hothers⟩ := List.forall_mem_cons.mp hseen
    have hfault : ∀ x, f.encode s ≠ .fault x := by
      intro x hx
      rw [hx] at hwordy
      cases hwordy
    have hrest : ∀ g ∈ fields, g.name ∉ f.name :: seen := by
      intro g hg hmem
      rcases List.mem_cons.mp hmem with heq | hmem
      · exact hname (List.mem_map.mpr ⟨g, hg, heq⟩)
      · exact hothers g hg hmem
    have hreads := ih hnames hfields hrest
    rw [List.map_cons, List.map_cons, List.reverse_cons, List.append_assoc, List.singleton_append]
    exact .field hf rfl hnew (hfault _) (hfault _) hset hreads

/-- **A record is kept with its fields**, if these have different names. -/
theorem Keeps.record {start : σ} (hnames : (fields.map (·.name)).Nodup)
    (h : KeepsFields (around + 1) s fields start) : (record fields start).Keeps around s where
  wordy := by
    refine .object fun m hm => ?_
    obtain ⟨f, hf, rfl⟩ := List.mem_map.mp hm
    exact h.wordy f hf
  decode_encode := by
    have hreads : Reads fields _ [] start _ _ :=
      h.reads hnames (fun f hf => hf) fun f _ => List.not_mem_nil
    refine bind_eq_ok_iff.mpr ⟨_, (readMembers_eq_ok_iff hnames).mpr hreads, if_pos ?_⟩
    -- Every field has been given.
    rw [List.all_eq_true]
    intro f hf
    have hgiven : f.name ∈ (fields.map (·.name)).reverse ++ [] := by
      rw [List.append_nil, List.mem_reverse]
      exact List.mem_map_of_mem hf
    rw [List.contains_iff_mem.mpr hgiven, Bool.or_true]

/-! ## Texts -/

/-- A text that is read as what a codec writes is read as what it keeps. -/
theorem Keeps.readText_of_read {a : α} (h : c.Keeps 0 a) {cs : List Char}
    (hcs : Json.read cs = ⟨c.encode a, false⟩) : c.readText cs = .ok a := by
  rw [readText, hcs, readDocument]
  exact bind_eq_ok_iff.mpr ⟨a, h.decode_encode, rfl⟩

/-- **What is kept is read back from its text on one line.** -/
theorem Keeps.readText_writeText {a : α} (h : c.Keeps 0 a) :
    c.readText (c.writeText a) = .ok a :=
  h.readText_of_read (Json.read_text h.wordy)

/-- **What is kept is read back from its text with line breaks.** -/
theorem Keeps.readText_pretty {a : α} (h : c.Keeps 0 a) :
    c.readText (c.encode a).pretty.toList = .ok a :=
  h.readText_of_read (Json.read_pretty h.wordy)

end CatalogSearch.Codec
