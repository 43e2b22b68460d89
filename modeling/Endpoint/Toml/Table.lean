import Endpoint.Toml.Number

/-!
# TOML tables

A TOML document builds up one table piece by piece.  What may be added to a table later
depends on how it came to be: a table with a header of its own takes no second header, one
that only a dotted key has made takes further dotted keys, and one that is only mentioned in
the header of another takes a header.
-/

namespace Endpoint.Toml

/-- How a table came to be. -/
inductive Origin where
  /-- it has a header of its own -/
  | header
  /-- it is mentioned in the header of another table -/
  | implied
  /-- a dotted key has made it -/
  | dotted
  deriving DecidableEq, Repr

/-- What a key of a table stands for. -/
inductive Item where
  | value (j : Json)
  | table (origin : Origin) (entries : List (String × Item))
  | tables (elements : List (List (String × Item)))

/-- The entries of a table in the order they were made. -/
abbrev Table := List (String × Item)

namespace Table

def find? (key : String) : Table → Option Item
  | [] => none
  | (k, x) :: rest => if k = key then some x else find? key rest

/-- Sets the item of a key; a new key comes last. -/
def set (key : String) (x : Item) : Table → Table
  | [] => [(key, x)]
  | (k, y) :: rest => if k = key then (key, x) :: rest else (k, y) :: set key x rest

/-- Adds a value under a dotted key.  The tables on the way must have been made by dotted
    keys, and the key must be new. -/
def add (path : List String) (key : String) (j : Json) (t : Table) : Option Table :=
  match path with
  | [] => if (t.find? key).isSome then none else some (t.set key (.value j))
  | k :: rest =>
    match t.find? k with
    | none => (add rest key j []).map fun t' => t.set k (.table .dotted t')
    | some (.value _) => none
    | some (.table origin t') =>
      if origin = .header ∨ (origin ≠ .dotted ∧ rest = []) then none
      else (add rest key j t').map fun t' => t.set k (.table origin t')
    | some (.tables elements) =>
      if rest = [] then none
      else
        (add rest key j (elements.getLastD [])).map fun t' =>
          t.set k (.tables (elements.dropLast ++ [t']))

/-- Changes the table at the path of a header; the last element stands for a list of
    tables, and tables that are missing on the way are made. -/
def atPath (path : List String) (f : Table → Option Table) (t : Table) : Option Table :=
  match path with
  | [] => f t
  | k :: rest =>
    match t.find? k with
    | none => (atPath rest f []).map fun t' => t.set k (.table .implied t')
    | some (.value _) => none
    | some (.table origin t') => (atPath rest f t').map fun t' => t.set k (.table origin t')
    | some (.tables elements) =>
      (atPath rest f (elements.getLastD [])).map fun t' =>
        t.set k (.tables (elements.dropLast ++ [t']))

/-- Gives a table a header. -/
def openTable (key : String) (t : Table) : Option Table :=
  match t.find? key with
  | none => some (t.set key (.table .header []))
  | some (.table .implied t') => some (t.set key (.table .header t'))
  | _ => none

/-- Adds an element to a list of tables. -/
def openElement (key : String) (t : Table) : Option Table :=
  match t.find? key with
  | none => some (t.set key (.tables [[]]))
  | some (.tables elements) => some (t.set key (.tables (elements ++ [[]])))
  | _ => none

end Table

/-- The value of a table inside another one.  If its first key is the one of a date or a time,
    the table stands for that. -/
def tableValue? (entries : List (String × Json)) : Option Json :=
  match entries with
  | [] => some (.object [])
  | (key, j) :: _ =>
    if key = timeKey then
      match j with
      | .str text =>
        match readTimeText text.toList with
        | some (time, []) => some (timeValue time)
        | _ => none
      | _ => none
    else some (.object entries)

mutual

/-- An item as a JSON value. -/
def Item.toJson? : Item → Option Json
  | .value j => some j
  | .table _ entries => (entriesToJson? entries).bind tableValue?
  | .tables elements => (elementsToJson? elements).map .arr

def entriesToJson? : List (String × Item) → Option (List (String × Json))
  | [] => some []
  | (k, x) :: rest =>
    match x.toJson?, entriesToJson? rest with
    | some j, some es => some ((k, j) :: es)
    | _, _ => none

def elementsToJson? : List (List (String × Item)) → Option (List Json)
  | [] => some []
  | entries :: rest =>
    match (entriesToJson? entries).bind tableValue?, elementsToJson? rest with
    | some j, some js => some (j :: js)
    | _, _ => none

end

/-- A whole document as a JSON object. -/
def Table.toJson? (t : Table) : Option Json := (entriesToJson? t).map .object

end Endpoint.Toml
