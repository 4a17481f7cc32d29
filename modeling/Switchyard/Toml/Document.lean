import Switchyard.Toml.Basic

namespace Switchyard.Toml

inductive TableKind where
  | header
  | implied
  | dotted
  deriving DecidableEq, Inhabited

inductive Node where
  | value (v : Toml)
  | table (kind : TableKind) (entries : List (String × Node))
  /-- An array of tables opened by headers, the last one first. -/
  | tables (first : List (String × Node)) (rest : List (List (String × Node)))
  deriving Inhabited

abbrev Entries := List (String × Node)

def setEntry (key : String) (node : Node) (entries : Entries) : Entries :=
  (key, node) :: entries.filter (·.1 != key)

def atHeader? (f : Entries → Option Entries) : List String → Entries → Option Entries
  | [], entries => f entries
  | key :: path, entries =>
    match entries.lookup key with
    | none => (atHeader? f path []).map fun inner => setEntry key (.table .implied inner) entries
    | some (.table kind inner) =>
      (atHeader? f path inner).map fun inner => setEntry key (.table kind inner) entries
    | some (.tables inner rest) =>
      (atHeader? f path inner).map fun inner => setEntry key (.tables inner rest) entries
    | some (.value _) => none

/-- Opens a table by its header; only an implied table may be there already. -/
def openTable? (key : String) (entries : Entries) : Option Entries :=
  match entries.lookup key with
  | none => some (setEntry key (.table .header []) entries)
  | some (.table .implied inner) => some (setEntry key (.table .header inner) entries)
  | _ => none

def openElement? (key : String) (entries : Entries) : Option Entries :=
  match entries.lookup key with
  | none => some (setEntry key (.tables [] []) entries)
  | some (.tables first rest) => some (setEntry key (.tables [] (first :: rest)) entries)
  | _ => none

/-- The kind of a table after dotted keys have led to it; it becomes one that dotted keys open if it
is where they end. -/
def TableKind.entered (kind : TableKind) (isEnd : Bool) : TableKind :=
  if isEnd then .dotted else kind

/-- Adds a value under a key of the table at hand. A dotted key leads through tables without a
header of their own, and opens those that are missing. -/
def insert? (value : Toml) : List String → Entries → Option Entries
  | [], _ => none
  | [key], entries =>
    if (entries.lookup key).isNone then some (setEntry key (.value value) entries) else none
  | key :: next :: path, entries =>
    match entries.lookup key with
    | none =>
      (insert? value (next :: path) []).map fun inner =>
        setEntry key (.table .dotted inner) entries
    | some (.table .header _) => none
    | some (.table kind inner) =>
      (insert? value (next :: path) inner).map fun inner =>
        setEntry key (.table (kind.entered path.isEmpty) inner) entries
    | some (.tables inner rest) =>
      if path.isEmpty then none
      else
        (insert? value (next :: path) inner).map fun inner =>
          setEntry key (.tables inner rest) entries
    | some (.value _) => none

mutual

def Node.toToml : Node → Toml
  | .value v => v
  | .table _ entries => .table (toTomlEntries entries).reverse
  | .tables first rest => .array (toTomlTables rest ++ [.table (toTomlEntries first).reverse])

def toTomlEntries : List (String × Node) → List (String × Toml)
  | [] => []
  | (key, node) :: entries => (key, node.toToml) :: toTomlEntries entries

def toTomlTables : List (List (String × Node)) → List Toml
  | [] => []
  | entries :: rest => toTomlTables rest ++ [.table (toTomlEntries entries).reverse]

end

def ofEntries (entries : Entries) : Toml := .table (toTomlEntries entries).reverse

end Switchyard.Toml
