import PacketDispatch.Toml.Basic

/-!
# Building TOML tables

The statements of a document are put into a tree of tables. A table is written under one header
only, a key is given one value only, and a table that dotted keys have made is closed to headers.
-/

namespace PacketDispatch
namespace Toml

/-- How a table came to be: by a header or between braces, as the parent in a header, or as the
parent in a dotted key. -/
inductive Origin
  | written
  | implied
  | dotted
  deriving DecidableEq, Repr

/-- A node of the tree: a value, a table, or the tables of an array of tables, last one first. -/
inductive Node
  | value (v : Toml)
  | table (origin : Origin) (entries : List (String × Node))
  | tables (newestFirst : List (List (String × Node)))

/-- The entries of a table with their names. -/
abbrev Entries := List (String × Node)

namespace Node

mutual

/-- The value that a node stands for. -/
def toToml : Node → Toml
  | .value v => v
  | .table _ entries => .table (entriesToToml entries)
  | .tables newestFirst => .array (tablesToToml newestFirst).reverse

/-- The values of the entries of a table. -/
def entriesToToml : List (String × Node) → List (String × Toml)
  | [] => []
  | (name, node) :: rest => (name, node.toToml) :: entriesToToml rest

/-- The values of the tables of an array. -/
def tablesToToml : List (List (String × Node)) → List Toml
  | [] => []
  | entries :: rest => .table (entriesToToml entries) :: tablesToToml rest

end

end Node

namespace Entries

/-- The node of a name. -/
def get? (es : Entries) (name : String) : Option Node :=
  es.lookup name

/-- The entries with the node of a name replaced, or added at the end. -/
def put (name : String) (node : Node) : Entries → Entries
  | [] => [(name, node)]
  | (n, old) :: rest => if n = name then (n, node) :: rest else (n, old) :: put name node rest

/-- A table to which a change is made: its origin and its entries. -/
structure Spot where
  origin : Origin
  entries : Entries

/-- A change is made to the table at the end of a path, with the parents that are missing made on
the way. Values have no entries; of an array of tables the newest one is meant; a dotted key does
not enter a table that was written. -/
def update (parents : Origin) (change : Spot → Option Entries) :
    List String → Spot → Option Entries
  | [], spot => change spot
  | name :: path, ⟨_, es⟩ =>
    match es.get? name with
    | none =>
      (update parents change path ⟨parents, []⟩).map fun inner =>
        es.put name (.table parents inner)
    | some (.value _) => none
    | some (.table origin inner) =>
      if parents = .dotted ∧ origin = .written then none
      else
        (update parents change path ⟨origin, inner⟩).map fun inner =>
          es.put name (.table origin inner)
    | some (.tables (inner :: older)) =>
      (update parents change path ⟨.written, inner⟩).map fun inner =>
        es.put name (.tables (inner :: older))
    | some (.tables []) => none

/-- A new name gets a value. Under a dotted key the table must be one that dotted keys have made, and
otherwise it must not. -/
def define (dotted : Bool) (name : String) (v : Toml) (spot : Spot) : Option Entries :=
  if decide (spot.origin = .dotted) != dotted then none
  else if (spot.entries.get? name).isSome then none
  else some (spot.entries ++ [(name, .value v)])

/-- The last part of a key and the parts before it. -/
def splitKey? (key : List String) : Option (List String × String) :=
  key.getLast?.map fun name => (key.dropLast, name)

/-- A key is given a value in a table that a header or braces have written. -/
def assign? (es : Entries) (key : List String) (v : Toml) : Option Entries := do
  let (path, name) ← splitKey? key
  update .dotted (define (!path.isEmpty) name v) path ⟨.written, es⟩

/-- A key is given a value in the table that is open, at the end of the path of its header. -/
def assignAt? (es : Entries) (table key : List String) (v : Toml) : Option Entries :=
  update .implied (fun spot => assign? spot.entries key v) table ⟨.written, es⟩

/-- A header opens a table: one that is new, or was only a parent in headers so far. -/
def openTable (name : String) (spot : Spot) : Option Entries :=
  match spot.entries.get? name with
  | none => some (spot.entries ++ [(name, .table .written [])])
  | some (.table .implied inner) => some (spot.entries.put name (.table .written inner))
  | some _ => none

/-- A header adds a table to an array of tables, which it may begin. -/
def openItem (name : String) (spot : Spot) : Option Entries :=
  match spot.entries.get? name with
  | none => some (spot.entries ++ [(name, .tables [[]])])
  | some (.tables items) => some (spot.entries.put name (.tables ([] :: items)))
  | some _ => none

/-- A header of a table. -/
def openTable? (es : Entries) (key : List String) : Option Entries := do
  let (path, name) ← splitKey? key
  update .implied (openTable name) path ⟨.written, es⟩

/-- A header of a table in an array. -/
def openItem? (es : Entries) (key : List String) : Option Entries := do
  let (path, name) ← splitKey? key
  update .implied (openItem name) path ⟨.written, es⟩

end Entries
end Toml
end PacketDispatch
