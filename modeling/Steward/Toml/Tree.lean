/-
This file builds the tables of a TOML text.
A table that a header has opened is closed for dotted keys, and one that stands between braces
is closed for all that follows.
-/

import Steward.Document

namespace Steward.Toml

/-- How a table has come up: by a header of its own, by the header of a table inside it, or by
a dotted key. -/
inductive Origin where
  | header
  | implied
  | dotted
  deriving DecidableEq, Repr

/-- What a key stands for while the text is read. -/
inductive Node where
  | value (document : Document)
  | table (origin : Origin) (entries : List (String × Node))
  /-- An array of tables, the last one first. -/
  | tables (items : List (List (String × Node)))

abbrev Entries := List (String × Node)

namespace Entries

/-- Puts a node in the place of the one with the same key, or at the end. -/
def put (entries : Entries) (key : String) (node : Node) : Entries :=
  match entries with
  | [] => [(key, node)]
  | (first, old) :: rest =>
      if first = key then (key, node) :: rest else (first, old) :: put rest key node

/-- Changes the table at the end of a path. Tables that are missing on the way come up as the
given origin, which also says who asks for the change: a dotted key may not enter a table that
has a header. In an array of tables the last one is meant. -/
def change (asker : Origin) (act : Origin → Entries → Option Entries) :
    List String → Origin → Entries → Option Entries
  | [], origin, entries => act origin entries
  | key :: path, _, entries =>
      match entries.lookup key with
      | none => do
          let inner ← change asker act path asker []
          return entries.put key (.table asker inner)
      | some (.table origin inner) =>
          if asker = .dotted ∧ origin = .header then none
          else do
            let inner ← change asker act path origin inner
            return entries.put key (.table origin inner)
      | some (.tables (last :: before)) => do
          let last ← change asker act path .header last
          return entries.put key (.tables (last :: before))
      | some (.tables []) | some (.value _) => none

/-- Sets a dotted key that is not set. The last table of its path is one that dotted keys have
made. -/
def set? (entries : Entries) (path : List String) (key : String) (document : Document) :
    Option Entries :=
  change .dotted
    (fun origin inner =>
      if decide (origin = .dotted) = path.isEmpty ∨ (inner.lookup key).isSome then none
      else some (inner.put key (.value document)))
    path .header entries

/-- Opens a table by its header. It may have come up by the header of a table inside it. -/
def openTable? (entries : Entries) (path : List String) (key : String) : Option Entries :=
  change .implied
    (fun _ inner =>
      match inner.lookup key with
      | none => some (inner.put key (.table .header []))
      | some (.table .implied kept) => some (inner.put key (.table .header kept))
      | some _ => none)
    path .header entries

/-- Opens another table of an array of tables by its header. -/
def openItem? (entries : Entries) (path : List String) (key : String) : Option Entries :=
  change .implied
    (fun _ inner =>
      match inner.lookup key with
      | none => some (inner.put key (.tables [[]]))
      | some (.tables items) => some (inner.put key (.tables ([] :: items)))
      | some _ => none)
    path .header entries

/-- Sets a dotted key in the table of a header that has been opened. -/
def setIn? (entries : Entries) (table : List String) (path : List String) (key : String)
    (document : Document) : Option Entries :=
  change .implied (fun _ inner => set? inner path key document) table .header entries

end Entries

mutual

def Node.toDocument : Node → Document
  | .value document => document
  | .table _ entries => .table (entryDocuments entries)
  | .tables items => .list (itemDocuments items).reverse

def entryDocuments : Entries → List (Document × Document)
  | [] => []
  | (key, node) :: rest => (.text key, node.toDocument) :: entryDocuments rest

def itemDocuments : List Entries → List Document
  | [] => []
  | first :: rest => .table (entryDocuments first) :: itemDocuments rest

end

end Steward.Toml
