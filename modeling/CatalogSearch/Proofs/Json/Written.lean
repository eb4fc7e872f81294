import CatalogSearch.Json.Reader
import CatalogSearch.Json.Writer
import Mathlib.Data.List.Basic

/-! # JSON texts are read back

The text of a value is read as this value and nothing else, on one line or with line breaks, if the
value is made of words: of null, truth values and strings, in arrays and objects. A string may have
any characters. Either text has the tokens of the value, and from these it is read back.

* **`Json.Wordy`**: values made of words;
* **`Json.exists_scanString`**: the written characters of a string spell it;
* **`Json.toTokens`**: the tokens of a value;
* **`Json.Separates`**, **`Json.textTokens_separated`**: elements with a mark between them, as
  texts and as tokens;
* **`Json.textTokens_text_append`**, **`Json.textTokens_prettyAt_append`**: both texts have these
  tokens;
* **`Json.complete`**, **`Json.readTokens_toTokens`**: what becomes of a complete value;
* **`Json.read_text`**, **`Json.read_pretty`**: the value of a text. -/

namespace CatalogSearch.Json

/-- **A value made of words**: there is no number in it, and no fault. -/
inductive Wordy : Json → Prop where
  | null : Wordy .null
  | bool (b : Bool) : Wordy (.bool b)
  | string (s : String) : Wordy (.string s)
  | array {items : List Json} (h : ∀ v ∈ items, Wordy v) : Wordy (.array items)
  | object {members : List (String × Json)} (h : ∀ m ∈ members, Wordy m.2) :
    Wordy (.object members)

/-! ## Strings -/

/-- A control character is written by its code. -/
theorem exists_hexUnit? : ∀ n < 0x20,
    ∃ a b, (if n < 0x10 then ['0'] else []) ++ Text.hexDigits n = [a, b] ∧
      hexUnit? '0' '0' a b = some n := by
  intro n hn
  have hall : ∀ n : Fin 0x20,
      ((if n.val < 0x10 then ['0'] else []) ++ Text.hexDigits n).length = 2 ∧
        Text.readDigits? Text.hexValue? 16 0
          ('0' :: '0' :: ((if n.val < 0x10 then ['0'] else []) ++ Text.hexDigits n)) =
            some n.val := by
    decide +kernel
  obtain ⟨hlength, hread⟩ := hall ⟨n, hn⟩
  obtain ⟨a, b, hab⟩ := List.length_eq_two.mp hlength
  rw [hab] at hread
  exact ⟨a, b, hab, hread⟩

/-- **A written character is scanned as one unit**, which spells it. -/
theorem exists_unit (c : Char) (cs : List Char) :
    ∃ unit, scanString ((escape c ++ cs).map some) =
        (scanString (cs.map some)).map (fun (us, rest) => (unit :: us, rest)) ∧
      ∀ us, spell (unit :: us) = (spell us).map (c :: ·) := by
  unfold escape
  split
  -- All characters but the first seven stand for themselves, unless they are controls.
  case h_8 hquote hbackslash _ _ _ _ _ =>
    by_cases hcontrol : c.toNat < 0x20
    · obtain ⟨a, b, hab, hunit⟩ := exists_hexUnit? c.toNat hcontrol
      refine ⟨.code c.toNat, ?_, fun us => ?_⟩
      · rw [if_pos hcontrol, List.append_assoc ['\\', 'u', '0', '0'], hab]
        show (hexUnit? '0' '0' a b).bind _ = _
        rw [hunit]
        rfl
      · have hhigh : ¬ (0xD800 ≤ c.toNat ∧ c.toNat < 0xDC00) := by omega
        have hlow : ¬ (0xDC00 ≤ c.toNat ∧ c.toNat < 0xE000) := by omega
        rw [spell.eq_def]
        simp only [if_neg hhigh, if_neg hlow, Char.ofNat_toNat]
    · refine ⟨.char c, ?_, fun us => rfl⟩
      have hplain : (c == '\\' || decide (c.toNat < 0x20)) = false := by
        simpa [hcontrol] using hbackslash
      rw [if_neg hcontrol, List.singleton_append, List.map_cons, scanString, hplain]
      · rfl
      · exact hquote
      · exact fun _ _ _ _ _ _ hc => hbackslash hc
      · exact fun _ _ _ hc => hbackslash hc
  all_goals exact ⟨.char _, rfl, fun us => rfl⟩

/-- **The written characters of a string spell it**, up to its closing quote. -/
theorem exists_scanString (s rest : List Char) :
    ∃ us, scanString ((s.flatMap escape ++ '"' :: rest).map some) = some (us, rest.map some) ∧
      spell us = some s := by
  induction s with
  | nil => exact ⟨[], rfl, rfl⟩
  | cons c s ih =>
    obtain ⟨us, hscan, hspell⟩ := ih
    obtain ⟨unit, hunit, hchar⟩ := exists_unit c (s.flatMap escape ++ '"' :: rest)
    refine ⟨unit :: us, ?_, ?_⟩
    · rw [List.flatMap_cons, List.append_assoc, hunit, hscan]
      rfl
    · rw [hchar, hspell]
      rfl

/-! ## Tokens -/

mutual

/-- **The tokens of a value.** -/
def toTokens : Json → List Token
  | .string s => [.text (some s)]
  | .array items => .beginArray :: itemTokens items ++ [.endArray]
  | .object members => .beginObject :: memberTokens members ++ [.endObject]
  | v => [.scalar v]

/-- The tokens of items, with commas between them. -/
def itemTokens : List Json → List Token
  | [] => []
  | [item] => toTokens item
  | item :: next :: items => toTokens item ++ .comma :: itemTokens (next :: items)

/-- The tokens of members, with commas between them. -/
def memberTokens : List (String × Json) → List Token
  | [] => []
  | [(name, value)] => .text (some name) :: .colon :: toTokens value
  | (name, value) :: next :: members =>
    .text (some name) :: .colon :: toTokens value ++ .comma :: memberTokens (next :: members)

end

/-- A token that is no blank is taken off a text. -/
theorem textTokens_cons {c : Char} {cs rest : List Char} {t : Token} (hspace : isSpace c = false)
    (h : Token.scan c (cs.map some) = (t, rest.map some)) :
    textTokens (c :: cs) = t :: textTokens rest := by
  rw [textTokens, List.map_cons, tokens, hspace]
  simp only [Bool.false_eq_true, if_false, h]
  rfl

/-- **A string is one token**, whatever follows. -/
theorem textTokens_stringText_append (s : String) (rest : List Char) :
    textTokens (stringText s ++ rest) = .text (some s) :: textTokens rest := by
  obtain ⟨us, hscan, hspell⟩ := exists_scanString s.toList rest
  have htext : stringText s ++ rest = '"' :: (s.toList.flatMap escape ++ '"' :: rest) := by
    simp [stringText]
  rw [htext]
  refine textTokens_cons rfl ?_
  simp only [Token.scan, hscan, hspell, Option.map_some, String.ofList_toList]

/-- A blank is passed over. -/
theorem textTokens_cons_of_isSpace {c : Char} (hspace : isSpace c = true) (cs : List Char) :
    textTokens (c :: cs) = textTokens cs := by
  rw [textTokens, List.map_cons, tokens, hspace, if_pos rfl]
  rfl

/-- A line break is passed over. -/
theorem textTokens_newline_append (level : Nat) (rest : List Char) :
    textTokens (newline level ++ rest) = textTokens rest := by
  rw [newline, List.cons_append, textTokens_cons_of_isSpace rfl]
  induction 2 * level with
  | zero => rfl
  | succ n ih => rw [List.replicate_succ, List.cons_append, textTokens_cons_of_isSpace rfl, ih]

/-- **Elements with a mark between them**, each spelled by `one`. -/
structure Separates {α γ : Type} (mark : γ) (one : α → List γ) (all : List α → List γ) : Prop where
  nil : all [] = []
  singleton : ∀ a, all [a] = one a
  cons : ∀ a b as, all (a :: b :: as) = one a ++ mark :: all (b :: as)

/-- **Elements with commas between them** have their tokens with commas between them, if each has
its own tokens, whatever follows. -/
theorem textTokens_separated {α : Type} {one : α → List Char} {all : List α → List Char}
    {oneToken : α → List Token} {allTokens : List α → List Token} (hall : Separates ',' one all)
    (htokens : Separates .comma oneToken allTokens) {as : List α}
    (h : ∀ a ∈ as, ∀ rest, textTokens (one a ++ rest) = oneToken a ++ textTokens rest)
    (rest : List Char) : textTokens (all as ++ rest) = allTokens as ++ textTokens rest := by
  induction as with
  | nil =>
    rw [hall.nil, htokens.nil]
    rfl
  | cons a as ih =>
    obtain ⟨ha, has⟩ := List.forall_mem_cons.mp h
    cases as with
    | nil => rw [hall.singleton, htokens.singleton, ha]
    | cons b as =>
      rw [hall.cons, htokens.cons, List.append_assoc, ha, List.cons_append,
        textTokens_cons (c := ',') rfl rfl, ih has, List.append_assoc, List.cons_append]

/-- The tokens of items have commas between them. -/
theorem separates_itemTokens : Separates .comma toTokens itemTokens :=
  ⟨rfl, fun _ => rfl, fun _ _ _ => rfl⟩

/-- The tokens of members have commas between them. -/
theorem separates_memberTokens :
    Separates .comma (fun m : String × Json => .text (some m.1) :: .colon :: toTokens m.2)
      memberTokens :=
  ⟨rfl, fun _ => rfl, fun _ _ _ => rfl⟩

/-- A name and what follows its colon. -/
theorem textTokens_name_append (name : String) {cs : List Char} {ts : List Token} {rest : List Char}
    (h : textTokens (cs ++ rest) = ts ++ textTokens rest) :
    textTokens (stringText name ++ ':' :: cs ++ rest) =
      .text (some name) :: .colon :: ts ++ textTokens rest := by
  rw [List.append_assoc, textTokens_stringText_append, List.cons_append,
    textTokens_cons (c := ':') rfl rfl, h]
  rfl

/-- What stands in brackets. -/
theorem textTokens_brackets_append {cs : List Char} {ts : List Token}
    (h : ∀ rest, textTokens (cs ++ rest) = ts ++ textTokens rest) (rest : List Char) :
    textTokens ('[' :: cs ++ [']'] ++ rest) =
      .beginArray :: ts ++ [.endArray] ++ textTokens rest := by
  rw [List.append_assoc, List.cons_append, textTokens_cons (c := '[') rfl rfl, h,
    List.singleton_append, textTokens_cons (c := ']') rfl rfl]
  simp

/-- What stands in braces. -/
theorem textTokens_braces_append {cs : List Char} {ts : List Token}
    (h : ∀ rest, textTokens (cs ++ rest) = ts ++ textTokens rest) (rest : List Char) :
    textTokens ('\x7b' :: cs ++ ['\x7d'] ++ rest) =
      .beginObject :: ts ++ [.endObject] ++ textTokens rest := by
  rw [List.append_assoc, List.cons_append, textTokens_cons (c := '\x7b') rfl rfl, h,
    List.singleton_append, textTokens_cons (c := '\x7d') rfl rfl]
  simp

/-- A literal is one token, whatever follows. -/
theorem textTokens_literal_append (rest : List Char) :
    textTokens (nullText ++ rest) = .scalar .null :: textTokens rest ∧
      ∀ b, textTokens (boolText b ++ rest) = .scalar (.bool b) :: textTokens rest := by
  refine ⟨textTokens_cons rfl rfl, fun b => ?_⟩
  cases b with
  | false => exact textTokens_cons rfl rfl
  | true => exact textTokens_cons rfl rfl

/-- **The text on one line has the tokens of the value**, whatever follows. -/
theorem textTokens_text_append {v : Json} (h : v.Wordy) (rest : List Char) :
    textTokens (v.text ++ rest) = v.toTokens ++ textTokens rest := by
  induction h generalizing rest with
  | null => exact (textTokens_literal_append rest).1
  | bool b => exact (textTokens_literal_append rest).2 b
  | string s => exact textTokens_stringText_append s rest
  | array h ih =>
    have hitems : Separates ',' text (compactItems Numeral.text) :=
      ⟨rfl, fun _ => rfl, fun _ _ _ => rfl⟩
    exact textTokens_brackets_append (textTokens_separated hitems separates_itemTokens ih) rest
  | object h ih =>
    have hmembers : Separates ',' (fun m : String × Json => stringText m.1 ++ ':' :: m.2.text)
        (compactMembers Numeral.text) :=
      ⟨rfl, fun _ => rfl, fun m n ms => by simp [compactMembers, text]⟩
    have hone := fun m hm rest => textTokens_name_append m.1 (ih m hm rest)
    exact textTokens_braces_append (textTokens_separated hmembers separates_memberTokens hone) rest

/-- **The text with line breaks has the tokens of the value**, whatever follows. -/
theorem textTokens_prettyAt_append {v : Json} (h : v.Wordy) (level : Nat) (rest : List Char) :
    textTokens (prettyAt level v ++ rest) = v.toTokens ++ textTokens rest := by
  induction h generalizing level rest with
  | null => exact (textTokens_literal_append rest).1
  | bool b => exact (textTokens_literal_append rest).2 b
  | string s => exact textTokens_stringText_append s rest
  | @array items h ih =>
    have hitems : Separates ',' (fun v => newline (level + 1) ++ prettyAt (level + 1) v)
        (prettyItems (level + 1)) :=
      ⟨rfl, fun _ => rfl, fun _ _ _ => rfl⟩
    have hone : ∀ v ∈ items, ∀ rest,
        textTokens (newline (level + 1) ++ prettyAt (level + 1) v ++ rest) =
          v.toTokens ++ textTokens rest := by
      intro v hv rest
      rw [List.append_assoc, textTokens_newline_append, ih v hv]
    have hall := textTokens_separated hitems separates_itemTokens hone
    cases items with
    | nil => exact textTokens_brackets_append hall rest
    | cons item items =>
      -- The closing bracket stands on a line of its own.
      have hlast : ∀ rest,
          textTokens ((prettyItems (level + 1) (item :: items) ++ newline level) ++ rest) =
            itemTokens (item :: items) ++ textTokens rest := by
        intro rest
        rw [List.append_assoc, hall, textTokens_newline_append]
      exact textTokens_brackets_append hlast rest
  | @object members h ih =>
    have hmembers : Separates ',' (fun m : String × Json =>
        newline (level + 1) ++ (stringText m.1 ++ ':' :: ' ' :: prettyAt (level + 1) m.2))
        (prettyMembers (level + 1)) :=
      ⟨rfl, fun m => by simp [prettyMembers], fun m n ms => by simp [prettyMembers]⟩
    have hone : ∀ m ∈ members, ∀ rest,
        textTokens (newline (level + 1) ++
            (stringText m.1 ++ ':' :: ' ' :: prettyAt (level + 1) m.2) ++ rest) =
          .text (some m.1) :: .colon :: toTokens m.2 ++ textTokens rest := by
      intro m hm rest
      rw [List.append_assoc, textTokens_newline_append]
      exact textTokens_name_append m.1 ((textTokens_cons_of_isSpace rfl _).trans (ih m hm _ rest))
    have hall := textTokens_separated hmembers separates_memberTokens hone
    cases members with
    | nil => exact textTokens_braces_append hall rest
    | cons m members =>
      have hlast : ∀ rest,
          textTokens ((prettyMembers (level + 1) (m :: members) ++ newline level) ++ rest) =
            memberTokens (m :: members) ++ textTokens rest := by
        intro rest
        rw [List.append_assoc, hall, textTokens_newline_append]
      exact textTokens_braces_append hlast rest

/-! ## Values -/

/-- **What becomes of a complete value**: it is the document, or goes into the innermost frame. -/
def complete (v : Json) (stack : List Frame) (ts : List Token) : Document :=
  match stack with
  | [] => ⟨v, !ts.isEmpty⟩
  | .array done :: stack => readTokens (.array (v :: done) :: stack) .next ts
  | .object done name :: stack =>
    readTokens (.object (member name v :: done) none :: stack) .next ts

variable {turn : Turn} {stack : List Frame}

/-- A literal is a complete value. -/
theorem readTokens_scalar (hturn : turn = .value ∨ turn = .item) (v : Json) (ts : List Token) :
    readTokens stack turn (.scalar v :: ts) = complete v stack ts := by
  rw [readTokens, if_pos hturn]
  rfl

/-- A string is a complete value where no name is to come. -/
theorem readTokens_string (hturn : turn = .value ∨ turn = .item) (s : String) (ts : List Token) :
    readTokens stack turn (.text (some s) :: ts) = complete (.string s) stack ts := by
  have hname : ¬ (turn = .name ∨ turn = .member) := by
    rcases hturn with rfl | rfl <;> decide
  -- The innermost frame is looked at first, as a string may be a name in an object.
  match stack with
  | [] =>
    rw [readTokens, if_pos hturn]
    · rfl
    · exact fun _ _ _ h => nomatch h
  | .array done :: stack =>
    rw [readTokens, if_pos hturn]
    · rfl
    · exact fun _ _ _ h => nomatch h
  | .object done name :: stack =>
    rw [readTokens, if_neg hname, if_pos hturn]
    rfl

/-- **The items of an array are read one after another**, if each of them is read wherever it may
stand. -/
theorem readTokens_itemTokens {items done : List Json} {ts : List Token}
    (hitems : ∀ v ∈ items, ∀ ts stack turn, (turn = .value ∨ turn = .item) →
      readTokens stack turn (v.toTokens ++ ts) = complete v stack ts)
    (hturn : turn = .item ∨ turn = .value ∧ items ≠ []) :
    readTokens (.array done :: stack) turn (itemTokens items ++ .endArray :: ts) =
      complete (.array (done.reverse ++ items)) stack ts := by
  have hvalue : turn = .value ∨ turn = .item := by
    rcases hturn with h | ⟨h, -⟩
    · exact Or.inr h
    · exact Or.inl h
  -- Each item goes to `done`. After a comma there has to be one more.
  induction items generalizing done turn with
  | nil =>
    obtain rfl : turn = .item := by simpa using hturn
    rw [itemTokens, List.nil_append, readTokens, List.append_nil, if_pos (by decide)]
    rfl
  | cons v items ih =>
    obtain ⟨hv, hitems⟩ := List.forall_mem_cons.mp hitems
    cases items with
    | nil =>
      rw [itemTokens, hv _ _ _ hvalue, complete, readTokens, if_pos (by decide),
        List.reverse_cons]
      rfl
    | cons w items =>
      rw [itemTokens, List.append_assoc, hv _ _ _ hvalue, complete, List.cons_append, readTokens,
        if_pos rfl, ih hitems (Or.inr ⟨rfl, List.cons_ne_nil _ _⟩) (Or.inl rfl),
        List.reverse_cons, List.append_assoc]
      rfl

/-- **The members of an object are read one after another**, if the value of each is read wherever
it may stand. -/
theorem readTokens_memberTokens {members done : List (String × Json)} {name : Option String}
    {ts : List Token}
    (hmembers : ∀ m ∈ members, ∀ ts stack turn, (turn = .value ∨ turn = .item) →
      readTokens stack turn (m.2.toTokens ++ ts) = complete m.2 stack ts)
    (hturn : turn = .member ∨ turn = .name ∧ members ≠ []) :
    readTokens (.object done name :: stack) turn (memberTokens members ++ .endObject :: ts) =
      complete (.object (done.reverse ++ members)) stack ts := by
  have hname : turn = .name ∨ turn = .member := by
    rcases hturn with h | ⟨h, -⟩
    · exact Or.inr h
    · exact Or.inl h
  induction members generalizing done turn name with
  | nil =>
    obtain rfl : turn = .member := by simpa using hturn
    rw [memberTokens, List.nil_append, readTokens, List.append_nil, if_pos (by decide)]
    rfl
  | cons m members ih =>
    obtain ⟨key, v⟩ := m
    obtain ⟨hv, hmembers⟩ := List.forall_mem_cons.mp hmembers
    -- The name of a member and its colon leave its value to be read.
    have hkey (ts : List Token) :
        readTokens (.object done name :: stack) turn
            (.text (some key) :: .colon :: (v.toTokens ++ ts)) =
          complete v (.object done (some key) :: stack) ts := by
      rw [readTokens, if_pos hname, readTokens, if_pos rfl]
      exact hv _ _ _ (Or.inl rfl)
    cases members with
    | nil =>
      refine (hkey _).trans ?_
      rw [complete, readTokens, if_pos (by decide), List.reverse_cons]
      rfl
    | cons next members =>
      rw [memberTokens, List.append_assoc]
      refine (hkey _).trans ?_
      rw [complete, List.cons_append, readTokens, if_pos rfl,
        ih hmembers (Or.inr ⟨rfl, List.cons_ne_nil _ _⟩) (Or.inl rfl), List.reverse_cons,
        List.append_assoc]
      rfl

/-- **The tokens of a value are read as the value**, wherever one may stand and whatever follows. -/
theorem readTokens_toTokens {v : Json} (h : v.Wordy) (ts : List Token) (stack : List Frame)
    (turn : Turn) (hturn : turn = .value ∨ turn = .item) :
    readTokens stack turn (v.toTokens ++ ts) = complete v stack ts := by
  -- By induction on what the value is made of, so that parts may stand in any frame.
  induction h generalizing ts stack turn with
  | null => exact readTokens_scalar hturn .null ts
  | bool b => exact readTokens_scalar hturn (.bool b) ts
  | string s => exact readTokens_string hturn s ts
  | array h ih =>
    rw [toTokens, List.append_assoc, List.cons_append, readTokens, if_pos hturn]
    exact readTokens_itemTokens ih (Or.inl rfl)
  | object h ih =>
    rw [toTokens, List.append_assoc, List.cons_append, readTokens, if_pos hturn]
    exact readTokens_memberTokens ih (Or.inl rfl)

/-- A text that has the tokens of a value is read as the value and nothing else. -/
theorem read_of_tokens {v : Json} (h : v.Wordy) {cs : List Char}
    (hcs : textTokens cs = v.toTokens) : read cs = ⟨v, false⟩ := by
  have hread := readTokens_toTokens h [] [] .value (Or.inl rfl)
  rw [List.append_nil] at hread
  rw [read, hcs, hread]
  rfl

/-- **The text of a value on one line is read as the value and nothing else.** -/
theorem read_text {v : Json} (h : v.Wordy) : read v.text = ⟨v, false⟩ := by
  refine read_of_tokens h ?_
  simpa [textTokens, tokens] using textTokens_text_append h []

/-- **The text of a value with line breaks is read as the value and nothing else.** -/
theorem read_pretty {v : Json} (h : v.Wordy) : read v.pretty.toList = ⟨v, false⟩ := by
  refine read_of_tokens h ?_
  simpa [textTokens, tokens, pretty] using textTokens_prettyAt_append h 0 []

end CatalogSearch.Json
