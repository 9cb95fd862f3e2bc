/-!
# TOML values

The values of a TOML document and the rules by which its statements build tables. A table comes
about in one of four ways, and the way decides what may be added to it later: a table written as a
value is complete; one opened by a header is filled by the lines below the header and by headers of
its subtables; one implied by a longer header may get a header of its own; one implied by a dotted
key takes further dotted keys.
-/

namespace NanHost

/-- How a table came about. -/
inductive TableForm where
  /-- Written as a value, between braces. -/
  | value
  /-- Opened by a header of its own. -/
  | header
  /-- Implied by the header of a table in it. -/
  | implied
  /-- Implied by a dotted key. -/
  | dotted
  deriving DecidableEq

/-- A TOML value. Of what no reader asks for, only the kind is kept. -/
inductive Toml where
  | text (value : String)
  | integer (value : Int)
  | float
  | boolean (value : Bool)
  | dateTime
  | list (items : List Toml)
  | table (form : TableForm) (entries : List (String × Toml))
  /-- Tables under one name, each opened by a header in double brackets. -/
  | tables (elements : List (List (String × Toml)))

namespace Toml

/-- The entries of a table, in the order in which their names came up. -/
abbrev Entries := List (String × Toml)

/-- The path to an entry, from the outermost name to the innermost. -/
abbrev Path := List String

namespace Entries

/-- Puts a value under a name, in the place of an earlier value if there is one. -/
def put (entries : Entries) (key : String) (value : Toml) : Entries :=
  if (entries.lookup key).isSome then
    entries.map fun entry => if entry.1 = key then (key, value) else entry
  else entries ++ [(key, value)]

/-- Adds the value of a key to a table. The names before the last lead through tables that dotted
keys implied, and imply them where there are none; the last name has to be new.

A table implied by a header is only passed through: it takes no value from here. The same goes for
the last of several tables under one name. -/
def insert (entries : Entries) (path : Path) (value : Toml) : Option Entries :=
  match path with
  | [] => none
  | [key] => if (entries.lookup key).isSome then none else some (entries ++ [(key, value)])
  | key :: next :: rest =>
    match entries.lookup key with
    | none => (insert [] (next :: rest) value).map fun inner =>
        entries ++ [(key, .table .dotted inner)]
    | some (.table .dotted inner) => (insert inner (next :: rest) value).map fun inner =>
        entries.put key (.table .dotted inner)
    | some (.table .implied inner) =>
      if rest.isEmpty then none
      else (insert inner (next :: rest) value).map fun inner =>
        entries.put key (.table .implied inner)
    | some (.tables elements) =>
      if rest.isEmpty then none
      else
        match elements.getLast? with
        | none => none
        | some last => (insert last (next :: rest) value).map fun last =>
          entries.put key (.tables (elements.dropLast ++ [last]))
    | some _ => none

/-- Adds the values of keys, one after the other. -/
def insertAll (entries : Entries) (values : List (Path × Toml)) : Option Entries :=
  values.foldlM (fun entries entry => Entries.insert entries entry.1 entry.2) entries

/-- Changes the table that a header leads to. The names before the last lead through tables of any
form but a value, and imply them where there are none; of several tables under one name the last is
meant. -/
def alter (entries : Entries) (path : Path) (change : Option Toml → Option Toml) :
    Option Entries :=
  match path with
  | [] => none
  | [key] => (change (entries.lookup key)).map (entries.put key)
  | key :: next :: rest =>
    match entries.lookup key with
    | none => (alter [] (next :: rest) change).map fun inner =>
        entries.put key (.table .implied inner)
    | some (.table .value _) => none
    | some (.table form inner) => (alter inner (next :: rest) change).map fun inner =>
        entries.put key (.table form inner)
    | some (.tables elements) =>
      match elements.getLast? with
      | none => none
      | some last => (alter last (next :: rest) change).map fun last =>
        entries.put key (.tables (elements.dropLast ++ [last]))
    | some _ => none

end Entries

/-- A part of a document that a header opens. -/
structure Section where
  path : Path
  /-- Whether the header is in double brackets. -/
  repeated : Bool
  values : List (Path × Toml)

/-- The table of a section. A header opens a table that is not there yet, or that a longer header
implied. -/
def Section.opened (part : Section) : Option Toml → Option Toml
  | none => (Entries.insertAll [] part.values).map (.table .header)
  | some (.table .implied entries) => (Entries.insertAll entries part.values).map (.table .header)
  | some _ => none

/-- The tables that a section in double brackets adds one to. -/
def Section.added (part : Section) : Option Toml → Option Toml
  | none => (Entries.insertAll [] part.values).map fun entries => .tables [entries]
  | some (.tables elements) =>
    (Entries.insertAll [] part.values).map fun entries => .tables (elements ++ [entries])
  | some _ => none

/-- A document: what comes before the first header, and the sections. -/
structure Document where
  top : List (Path × Toml)
  sections : List Section

/-- The table that a document describes, if its parts do not contradict each other. -/
def Document.entries? (document : Document) : Option Entries := do
  let top ← Entries.insertAll [] document.top
  document.sections.foldlM
    (fun entries part =>
      Entries.alter entries part.path (if part.repeated then part.added else part.opened)) top

end Toml

end NanHost
