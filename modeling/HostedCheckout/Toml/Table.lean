import HostedCheckout.Toml.Value

/-!
# Building the tables of a TOML document

Tables are opened by headers, implied by longer headers, or made by dotted
keys.  A table is opened once; dotted keys add only to tables that dotted keys
have made.  A header in double brackets begins the next table of an array, and
later headers lead into the last one.
-/

namespace HostedCheckout.Toml

/-- How a table came to be. -/
inductive Origin where
  | opened
  | implied
  | dotted
  deriving DecidableEq

/-- A part of a document that is being built. -/
inductive Node where
  | value (value : Value)
  | table (origin : Origin) (entries : List (String × Node))
  /-- An array of tables, the latest first. -/
  | tables (last : List (String × Node)) (earlier : List (List (String × Node)))

/-- The entries of a table that is being built. -/
abbrev Nodes := List (String × Node)

namespace Nodes

/-- Put a node under a key, in the place of the one that is there. -/
def put (key : String) (node : Node) : Nodes → Nodes
  | [] => [(key, node)]
  | (other, held) :: rest =>
      if key = other then (key, node) :: rest else (other, held) :: put key node rest

/-- Follow a path of keys to a table and change it.  Tables that are missing on
the way are made. -/
def within (origin : Origin) (change : Nodes → Option Nodes) : List String → Nodes → Option Nodes
  | [], nodes => change nodes
  | key :: path, nodes =>
      match nodes.lookup key with
      | none => (within origin change path []).map fun inner => put key (.table origin inner) nodes
      | some (.table held inner) =>
          if origin = .dotted ∧ (held = .opened ∨ (path = [] ∧ held ≠ .dotted)) then none
          else (within origin change path inner).map fun inner => put key (.table held inner) nodes
      | some (.tables last earlier) =>
          if origin = .dotted ∧ path = [] then none
          else (within origin change path last).map fun last => put key (.tables last earlier) nodes
      | some (.value _) => none

/-- Add a value under a key that is still free. -/
def addNew (key : String) (value : Value) (nodes : Nodes) : Option Nodes :=
  match nodes.lookup key with
  | none => some (put key (.value value) nodes)
  | some _ => none

/-- Add a value under a dotted key. -/
def assign (path : List String) (key : String) (value : Value) (nodes : Nodes) : Option Nodes :=
  within .dotted (addNew key value) path nodes

/-- Open a table that was not opened before. -/
def openNew (key : String) (nodes : Nodes) : Option Nodes :=
  match nodes.lookup key with
  | none => some (put key (.table .opened []) nodes)
  | some (.table .implied inner) => some (put key (.table .opened inner) nodes)
  | some _ => none

/-- Begin the next table of an array. -/
def appendNew (key : String) (nodes : Nodes) : Option Nodes :=
  match nodes.lookup key with
  | none => some (put key (.tables [] []) nodes)
  | some (.tables last earlier) => some (put key (.tables [] (last :: earlier)) nodes)
  | some _ => none

end Nodes

mutual

/-- A finished part. -/
def Node.toValue : Node → Value
  | .value value => value
  | .table _ entries => .table (entriesToValues entries)
  | .tables last earlier =>
      .array ((tablesToValues earlier).reverse ++ [.table (entriesToValues last)])

/-- Finished entries. -/
def entriesToValues : List (String × Node) → List (String × Value)
  | [] => []
  | (key, node) :: rest => (key, node.toValue) :: entriesToValues rest

/-- Finished tables of an array. -/
def tablesToValues : List (List (String × Node)) → List Value
  | [] => []
  | entries :: rest => .table (entriesToValues entries) :: tablesToValues rest

end

end HostedCheckout.Toml
