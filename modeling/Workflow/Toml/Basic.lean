namespace Workflow

/-!
# TOML documents

A document is a table of keys.  Tables come to be in several ways, and how one came to be decides
who may still add to it: a table that a header names is opened once, and can then only get tables
below it; one that dotted keys made takes more dotted keys; an inline table is complete as written.
-/

/-- How a table came to be. -/
inductive TableOrigin where
  /-- A header names the table. -/
  | header
  /-- A header names a table below it. -/
  | implied
  /-- A dotted key leads through it. -/
  | dotted
  /-- The table is written in braces. -/
  | inlined
  deriving DecidableEq

/-- A value.  Numbers with a point and moments are kept as written. -/
inductive Toml where
  | string (value : String)
  | integer (value : Int)
  | float (text : String)
  | boolean (value : Bool)
  | moment (text : String)
  | array (items : List Toml)
  | table (origin : TableOrigin) (entries : List (String × Toml))
  /-- The tables that headers in double brackets name, of which the last can still be added to. -/
  | tables (tables : List (List (String × Toml)))

namespace Toml

/-- The contents of a table, in the order of the document. -/
abbrev Entries := List (String × Toml)

/-- The entries with the value of a key replaced. -/
def replace (key : String) (value : Toml) : Entries → Entries
  | [] => []
  | (other, old) :: rest =>
    if other = key then (key, value) :: rest else (other, old) :: replace key value rest

/-- Changes the table that a path leads to.  Tables on the way may be entered as their origin says;
those that are missing are made.  Of tables in an array it is the last that is entered. -/
def changeAt (mayEnter : TableOrigin → Bool) (made : TableOrigin) (path : List String)
    (change : TableOrigin → Entries → Option Entries) (origin : TableOrigin) (entries : Entries) :
    Option Entries :=
  match path with
  | [] => change origin entries
  | key :: rest =>
    match entries.lookup key with
    | none =>
      (changeAt mayEnter made rest change made []).map fun inner =>
        entries ++ [(key, .table made inner)]
    | some (.table reached inner) =>
      if mayEnter reached then
        (changeAt mayEnter made rest change reached inner).map fun changed =>
          replace key (.table reached changed) entries
      else none
    | some (.tables members) =>
      (changeAt mayEnter made rest change .header (members.getLast?.getD [])).map fun changed =>
        replace key (.tables (members.dropLast ++ [changed])) entries
    | some _ => none

/-- Which tables dotted keys may lead through. -/
def entersByKey (origin : TableOrigin) : Bool := origin == .implied || origin == .dotted

/-- Which tables headers may lead through. -/
def entersByHeader (origin : TableOrigin) : Bool := origin ≠ .inlined

/-- Gives a value to a key that has none. -/
def addEntry (key : String) (value : Toml) (entries : Entries) : Option Entries :=
  if (entries.lookup key).isSome then none else some (entries ++ [(key, value)])

/-- Gives a value to a dotted key below a table; the last table on the way, if there is one, must be
one that dotted keys made. -/
def addDotted (path : List String) (key : String) (value : Toml) (origin : TableOrigin)
    (entries : Entries) : Option Entries :=
  changeAt entersByKey .dotted path
    (fun reached inner =>
      if path.isEmpty || reached == .dotted then addEntry key value inner else none)
    origin entries

/-- Opens the table of a header.  It may be there only as a table that other headers imply. -/
def openTable (path : List String) (key : String) (root : Entries) : Option Entries :=
  changeAt entersByHeader .implied path
    (fun _ inner =>
      match inner.lookup key with
      | none => some (inner ++ [(key, .table .header [])])
      | some (.table .implied entries) => some (replace key (.table .header entries) inner)
      | some _ => none)
    .header root

/-- Opens one more table of an array of tables. -/
def openMember (path : List String) (key : String) (root : Entries) : Option Entries :=
  changeAt entersByHeader .implied path
    (fun _ inner =>
      match inner.lookup key with
      | none => some (inner ++ [(key, .tables [[]])])
      | some (.tables members) => some (replace key (.tables (members ++ [[]])) inner)
      | some _ => none)
    .header root

/-- Gives a value to a dotted key below the table of a header. -/
def addBelow (header : List String) (path : List String) (key : String) (value : Toml)
    (root : Entries) : Option Entries :=
  changeAt entersByHeader .implied header (addDotted path key value) .header root

end Toml

end Workflow
