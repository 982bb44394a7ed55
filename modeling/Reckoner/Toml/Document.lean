import Reckoner.Data

/-!
# TOML documents under construction

The tables read so far, together with what may no longer be changed: tables that were declared may
not be declared again, and values written in brackets or braces are closed for good.

## Implementation notes

Entries are found along a path of names.  Where a path meets a list, it continues in the last item,
which is the table that an array declaration opened last.
-/

namespace Reckoner.Toml

/-- A path of names from the root of a document. -/
abbrev Path := List String

/-- The entries of a table in order of insertion. -/
abbrev Entries := List (String × Data)

namespace Entries

/-- Replaces the value of an existing name. -/
def replace (name : String) (value : Data) : Entries → Entries
  | [] => []
  | (other, old) :: later =>
      if other = name then (other, value) :: later else (other, old) :: replace name value later

/-- Replaces the last item of a list. -/
def replaceLast (item : Data) (items : List Data) : List Data := items.dropLast ++ [item]

/-- Changes the table at the end of a path, creating the tables on the way that are missing.  A
path that runs into another value, or into a list when `throughLists` is false, has no end. -/
def change? (throughLists : Bool) (path : Path) (f : Entries → Option Entries)
    (entries : Entries) : Option Entries :=
  match path with
  | [] => f entries
  | name :: below =>
      match entries.lookup name with
      | none => do
          let inner ← change? throughLists below f []
          return entries ++ [(name, .table inner)]
      | some (.table inner) => do
          let inner ← change? throughLists below f inner
          return replace name (.table inner) entries
      | some (.list items) =>
          match items.getLast? with
          | some (.table inner) =>
              if throughLists then do
                let inner ← change? throughLists below f inner
                return replace name (.list (replaceLast (.table inner) items)) entries
              else none
          | _ => none
      | some _ => none

/-- Adds a value under a name that is not taken. -/
def insertNew? (name : String) (value : Data) (entries : Entries) : Option Entries :=
  match entries.lookup name with
  | none => some (entries ++ [(name, value)])
  | some _ => none

/-- Adds an empty table to the list under a name. -/
def appendTable? (name : String) (entries : Entries) : Option Entries :=
  match entries.lookup name with
  | none => some (entries ++ [(name, .list [.table []])])
  | some (.list items) => some (replace name (.list (items ++ [.table []])) entries)
  | some _ => none

end Entries

/-- A document that is being read. -/
structure Document where
  /-- The entries of the root. -/
  entries : Entries
  /-- The table that plain entries go to. -/
  header : Path
  /-- Tables that may not be declared again. -/
  declared : List Path
  /-- Tables made by dotted names, which count as declared from the next header on. -/
  pending : List Path
  /-- Values that nothing may be added to, directly or further below. -/
  closed : List Path

namespace Document

/-- A document without entries. -/
def empty : Document := ⟨[], [], [], [], []⟩

/-- Whether nothing may be added at a path. -/
def isClosed (document : Document) (path : Path) : Bool :=
  document.closed.any fun start => start.isPrefixOf path

/-- Whether a value may hold further entries, so that it has to be closed. -/
def isContainer : Data → Bool
  | .list _ => true
  | .table _ => true
  | _ => false

/-- Adds an entry under a dotted name below the header. -/
def insert? (document : Document) (name : Path) (value : Data) : Option Document := do
  let stem ← name.getLast?
  let parent := document.header ++ name.dropLast
  let opened := (List.range' 1 (name.length - 1)).map fun n => document.header ++ name.take n
  if opened.any document.declared.contains || document.isClosed parent then none
  else
    let entries ← Entries.change? true parent (Entries.insertNew? stem value) document.entries
    return { document with
      entries := entries
      pending := document.pending ++ opened
      closed := if isContainer value then (document.header ++ name) :: document.closed
        else document.closed }

/-- The document in which a new header starts. -/
def settled (document : Document) : Document :=
  { document with declared := document.declared ++ document.pending, pending := [] }

/-- Declares a table. -/
def declareTable? (document : Document) (path : Path) : Option Document := do
  let document := document.settled
  if document.declared.contains path || document.isClosed path then none
  else
    let entries ← Entries.change? true path some document.entries
    return { document with
      entries := entries, header := path, declared := path :: document.declared }

/-- Declares another table in a list of tables, below which names are free again. -/
def declareItem? (document : Document) (path : Path) : Option Document := do
  let document := document.settled
  let name ← path.getLast?
  if document.isClosed path then none
  else
    let entries ← Entries.change? true path.dropLast (Entries.appendTable? name) document.entries
    let free (taken : Path) : Bool := !path.isPrefixOf taken
    return { document with
      entries := entries
      header := path
      declared := path :: document.declared.filter free
      closed := document.closed.filter free }

end Document

end Reckoner.Toml
