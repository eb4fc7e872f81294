import CatalogSearch.Toml.Value

/-! # Building TOML tables

A TOML text builds its tables statement by statement. What may still be added to a table depends on
what brought it about.

* **`Toml.Origin`**: what brought a table about;
* **`Toml.Node`**: a value, a table or a list of tables under construction;
* **`Toml.insert?`**: a value added under a dotted key;
* **`Toml.define?`**, **`Toml.extend?`**: a table, or one more element of a list of tables, opened
  by a header;
* **`Toml.modify?`**: a change of the table at a path;
* **`Toml.finish`**: the table that has been built. -/

namespace CatalogSearch.Toml

/-- **What brought a table about.** -/
inductive Origin where
  /-- A header for a table inside it. -/
  | implied
  /-- A dotted key. -/
  | dotted
  /-- A header of its own. -/
  | defined
  deriving DecidableEq, Repr

/-- **A part of a text under construction.** -/
inductive Node where
  /-- A value that is complete. -/
  | leaf (v : Toml)
  | table (origin : Origin) (members : List (String × Node))
  /-- A list of tables, the last one first. -/
  | tables (elements : List (List (String × Node)))
  deriving Repr, Inhabited

/-- The members of a table under construction. -/
abbrev Members := List (String × Node)

/-- The members with the one of the given name replaced, or added at the end. -/
def put (name : String) (n : Node) : Members → Members
  | [] => [(name, n)]
  | (other, m) :: ms => if other = name then (name, n) :: ms else (other, m) :: put name n ms

/-- Whether a key may go into a table it was led to by a dotted key. -/
def Origin.takesKeys : Origin → Bool
  | .dotted => true
  | _ => false

/-- Whether a dotted key may lead through a table. -/
def Origin.isOpen : Origin → Bool
  | .defined => false
  | _ => true

/-- **The members with a value added under a dotted key**; none where the key is taken. A dotted key
leads through tables without a header of their own, and ends in one that dotted keys have made. -/
def insert? (v : Toml) : List String → Members → Option Members
  | [], _ => none
  | [name], ms => if (ms.lookup name).isSome then none else some (ms ++ [(name, .leaf v)])
  | name :: next :: path, ms =>
    let isLast := path.isEmpty
    match ms.lookup name with
    | none => (insert? v (next :: path) []).map fun sub => put name (.table .dotted sub) ms
    | some (.table origin sub) =>
      if origin.isOpen && (!isLast || origin.takesKeys) then
        (insert? v (next :: path) sub).map fun sub => put name (.table origin sub) ms
      else none
    | some (.tables (sub :: subs)) =>
      if isLast then none
      else (insert? v (next :: path) sub).map fun sub => put name (.tables (sub :: subs)) ms
    | some _ => none

/-- **The members with the table at a path changed.** A path leads to the last element of a list of
tables; tables that are not there yet are implied. -/
def modify? (change : Members → Option Members) : List String → Members → Option Members
  | [], ms => change ms
  | name :: path, ms =>
    match ms.lookup name with
    | none => (modify? change path []).map fun sub => put name (.table .implied sub) ms
    | some (.table origin sub) =>
      (modify? change path sub).map fun sub => put name (.table origin sub) ms
    | some (.tables (sub :: subs)) =>
      (modify? change path sub).map fun sub => put name (.tables (sub :: subs)) ms
    | some _ => none

/-- **The members with a table opened by a header.** -/
def define? (name : String) (ms : Members) : Option Members :=
  match ms.lookup name with
  | none => some (put name (.table .defined []) ms)
  | some (.table .implied sub) => some (put name (.table .defined sub) ms)
  | some _ => none

/-- **The members with one more element of a list of tables.** -/
def extend? (name : String) (ms : Members) : Option Members :=
  match ms.lookup name with
  | none => some (put name (.tables [[]]) ms)
  | some (.tables subs) => some (put name (.tables ([] :: subs)) ms)
  | some _ => none

mutual

/-- The value of a part that has been built. -/
def Node.finish : Node → Toml
  | .leaf v => v
  | .table _ ms => .table (finish ms)
  | .tables subs => .array (finishElements subs).reverse

/-- **The table that has been built.** -/
def finish : Members → Table
  | [] => []
  | (name, n) :: ms => (name, n.finish) :: finish ms

/-- The elements of a list of tables that has been built. -/
def finishElements : List Members → List Toml
  | [] => []
  | ms :: subs => .table (finish ms) :: finishElements subs

end

end CatalogSearch.Toml
