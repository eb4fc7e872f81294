import CatalogSearch.Text.Split

/-! # Words of a command line

How the words of a command line are told apart, and how a level of it, the program or one of its
commands, reads them from left to right. The first thing that ends the reading counts: a word that
is out of place, or a wish for the version or for help.

* **`Word.ofText`**: an option, the end of the options, or a plain word;
* **`Effect`**: what an option does to what has been read so far;
* **`Grammar`**: the options and the plain words of a level;
* **`Grammar.read`**: the words of a level. -/

namespace CatalogSearch.CommandLine

/-- **A word by how it looks.** -/
inductive Word where
  /-- Two dashes: no options follow. -/
  | endOfOptions
  /-- A name after two dashes, perhaps with a value after an equals sign. -/
  | long (name : String) (value : Option String)
  /-- Letters after one dash, each an option. -/
  | short (letters : List Char)
  | plain
  deriving DecidableEq, Repr

/-- The option of a name and what may follow it. -/
def Word.ofLong (cs : List Char) : Word :=
  match cs.dropWhile (· != '=') with
  | [] => .long (String.ofList cs) none
  | _ :: value => .long (String.ofList (cs.takeWhile (· != '='))) (some (String.ofList value))

/-- **The look of a word.** A single dash is a plain word. -/
def Word.ofText (text : String) : Word :=
  match text.toList with
  | ['-', '-'] => .endOfOptions
  | '-' :: '-' :: cs => .ofLong cs
  | '-' :: c :: cs => .short (c :: cs)
  | _ => .plain

/-- What ends the reading early. -/
inductive Stop where
  | version
  | help
  /-- A word is out of place, missing, or no value of its option. -/
  | misuse
  deriving DecidableEq, Repr

/-- **What an option does** to what has been read so far. -/
inductive Effect (σ : Type) where
  | flag (set : σ → Except Stop σ)
  /-- The option has a value. -/
  | valued (set : String → σ → Except Stop σ)

/-- What a plain word is. -/
inductive Plain (σ : Type) where
  /-- Each one is part of the level. -/
  | takes (set : String → σ → Except Stop σ)
  /-- The first one begins something else. -/
  | leaves

/-- **What a level of the command line understands.** -/
structure Grammar (σ : Type) where
  long : String → Option (Effect σ)
  short : Char → Option (Effect σ)
  plain : Plain σ

namespace Grammar

variable {σ : Type}

/-- The options of some letters, one after the other. None of them may have a value. -/
def readShort (g : Grammar σ) : List Char → σ → Except Stop σ
  | [], s => .ok s
  | c :: cs, s =>
    match g.short c with
    | some (.flag set) => (set s).bind (g.readShort cs)
    | _ => .error .misuse

/-- Plain words after the end of the options. -/
def readPlain (g : Grammar σ) : List String → σ → Except Stop σ
  | [], s => .ok s
  | word :: words, s =>
    match g.plain with
    | .takes set => (set word s).bind (g.readPlain words)
    | .leaves => .error .misuse

/-- **The words of a level**, and those from the first one on that begins something else. A value
stands behind an equals sign or is the next word, if that is a plain one. -/
def read (g : Grammar σ) : List String → σ → Except Stop (σ × List String)
  | [], s => .ok (s, [])
  | word :: words, s =>
    match Word.ofText word with
    | .endOfOptions => (g.readPlain words s).map (·, [])
    | .long name value =>
      match g.long name, value with
      | some (.flag set), none => (set s).bind (g.read words)
      | some (.valued set), some value => (set value s).bind (g.read words)
      -- A word that looks like an option is no value.
      | some (.valued set), none =>
        match words with
        | [] => .error .misuse
        | value :: words =>
          if Word.ofText value = .plain then (set value s).bind (g.read words) else .error .misuse
      | _, _ => .error .misuse
    | .short letters => (g.readShort letters s).bind (g.read words)
    | .plain =>
      match g.plain with
      | .takes set => (set word s).bind (g.read words)
      | .leaves => .ok (s, word :: words)

/-- Where no words are left, nothing changes. -/
@[simp] theorem read_nil (g : Grammar σ) (s : σ) : g.read [] s = .ok (s, []) := by
  rw [read]

end Grammar

/-- A value for an option that may be given once. -/
def once {α : Type} (before : Option α) (value : α) : Except Stop (Option α) :=
  match before with
  | none => .ok (some value)
  | some _ => .error .misuse

end CatalogSearch.CommandLine
