/-!
# TOML documents

A document is a tree of tables. It is written as a sequence of statements: entries, each below the table of the last
header, and headers that open a table or one more table of an array. `Toml.ofStatements?` builds the tree and refuses
what would define the same thing twice. Whether a table may still be extended depends on how it came about, which is
its `Origin`.

Numbers with a fraction and points in time are only told apart from other values, as no setting holds one.
-/

namespace ElixirLint

/-- How a table came about, and so who may extend it. -/
inductive Origin
  /-- A value between braces: closed. -/
  | inline
  /-- The way to a table of a header: open to dotted keys, and to a header of its own. -/
  | passed
  /-- Made by a dotted key: open to dotted keys only. -/
  | dotted
  /-- Opened by a header of its own. -/
  | headed
  deriving DecidableEq, Repr

/-- A value in a document. -/
inductive Toml
  | string (text : String)
  | int (value : Int)
  | fraction
  | bool (value : Bool)
  | moment
  | array (items : List Toml)
  /-- A table, its entries in the order of their coming. -/
  | table (origin : Origin) (entries : List (String × Toml))
  /-- Tables opened by doubled headers, the last one first. -/
  | tables (items : List Toml)
  deriving Repr

namespace Toml

/-- One statement of a document. -/
inductive Statement
  /-- A value under a key, below the current table by the keys of a way. -/
  | entry (way : List String) (key : String) (value : Toml)
  /-- A header that opens a table. -/
  | header (way : List String) (key : String)
  /-- A header that adds a table to an array of tables. -/
  | item (way : List String) (key : String)
  deriving Repr

/-- Puts a value under a key, in the place of the one that was there. -/
def put (key : String) (value : Toml) : List (String × Toml) → List (String × Toml)
  | [] => [(key, value)]
  | (k, v) :: rest => if k = key then (key, value) :: rest else (k, v) :: put key value rest

/-- Changes the table at the end of a way. Tables that the way needs are made. A dotted way does not lead into a table
that a header has opened, and no way leads into a value. -/
def modify (dotted : Bool) (change : Toml → Option Toml) : List String → Toml → Option Toml
  | [], t => change t
  | key :: way, .table origin entries =>
    match (entries.lookup key).getD (.table (if dotted then .dotted else .passed) []) with
    | .table o inner =>
      if o = .inline ∨ (dotted ∧ o = .headed) then none
      else (modify dotted change way (.table o inner)).map fun t => .table origin (put key t entries)
    | .tables (last :: before) =>
      (modify dotted change way last).map fun t => .table origin (put key (.tables (t :: before)) entries)
    | _ => none
  | _ :: _, _ => none

/-- Adds an entry at the end of a way of dotted keys. A table made by dotted keys takes no entry that is not dotted,
and any other table none that is. -/
def addEntry (dotted : Bool) (key : String) (value : Toml) : Toml → Option Toml
  | .table origin entries =>
    if (decide (origin = .dotted)) ≠ dotted then none
    else if (entries.lookup key).isSome then none
    else some (.table origin (put key value entries))
  | _ => none

/-- Adds an entry below a table. -/
def putEntry (way : List String) (key : String) (value : Toml) (t : Toml) : Option Toml :=
  modify true (addEntry (!way.isEmpty) key value) way t

/-- Opens a table under a key; it may be there as the way to another. -/
def openTable (key : String) : Toml → Option Toml
  | .table origin entries =>
    match entries.lookup key with
    | none => some (.table origin (put key (.table .headed []) entries))
    | some (.table .passed inner) => some (.table origin (put key (.table .headed inner) entries))
    | some _ => none
  | _ => none

/-- Adds a table to the array of tables under a key. -/
def addItem (key : String) : Toml → Option Toml
  | .table origin entries =>
    match entries.lookup key with
    | none => some (.table origin (put key (.tables [.table .headed []]) entries))
    | some (.tables items) => some (.table origin (put key (.tables (.table .headed [] :: items)) entries))
    | some _ => none
  | _ => none

/-- Builds the tree of a document; `current` is the way to the table of the last header. -/
def build : List String → List Statement → Toml → Option Toml
  | _, [], t => some t
  | current, .entry way key value :: rest, t =>
    match modify false (putEntry way key value) current t with
    | none => none
    | some t => build current rest t
  | _, .header way key :: rest, t =>
    match modify false (openTable key) way t with
    | none => none
    | some t => build (way ++ [key]) rest t
  | _, .item way key :: rest, t =>
    match modify false (addItem key) way t with
    | none => none
    | some t => build (way ++ [key]) rest t

/-- The document that statements make, if they define nothing twice. -/
def ofStatements? (statements : List Statement) : Option Toml := build [] statements (.table .headed [])

/-- The table that entries between braces make, if they define nothing twice. -/
def ofEntries? (entries : List (List String × String × Toml)) : Option Toml :=
  match entries.foldlM (fun t (way, key, value) => putEntry way key value t) (.table .headed []) with
  | some (.table _ inner) => some (.table .inline inner)
  | _ => none

end Toml

end ElixirLint
