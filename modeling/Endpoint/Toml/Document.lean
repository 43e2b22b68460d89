import Endpoint.Toml.Table

/-!
# TOML documents

`Toml.read?` reads a document as a JSON object.
-/

namespace Endpoint.Toml

mutual

/-- Reads a value; `depth` arrays and tables may still be opened. -/
def readValue : Nat → Nat → Reader Json
  | 0, _, _ => none
  | fuel + 1, depth, s =>
    match s with
    | [] => none
    | c :: rest =>
      if c = '"' ∨ c = '\'' then (readString s).map fun (xs, r) => (.str (String.ofList xs), r)
      else if c = '[' then
        match depth with
        | 0 => none
        | depth + 1 => (readItems fuel depth (skipLines rest.length rest)).map fun (js, r) =>
            (.arr js, r)
      else if c = '\x7b' then
        match depth with
        | 0 => none
        | depth + 1 =>
          match skipSpace rest with
          | '\x7d' :: r => some (.obj [], r)
          | r =>
            (readPairs fuel depth [] r).bind fun (t, r) =>
              ((Item.table .header t).toJson?).map fun j => (j, r)
      else
        match dropWord? "true" s, dropWord? "false" s with
        | some r, _ => some (.bool true, r)
        | none, some r => some (.bool false, r)
        | none, none => if startsTime s then readTime s else readNumber s

/-- Reads the items of an array up to its closing bracket. -/
def readItems : Nat → Nat → Reader (List Json)
  | 0, _, _ => none
  | fuel + 1, depth, s =>
    match s with
    | ']' :: r => some ([], r)
    | s =>
      match readValue fuel depth s with
      | none => none
      | some (j, s) =>
        match skipLines (s.length + 1) s with
        | ']' :: r => some ([j], r)
        | ',' :: r =>
          (readItems fuel depth (skipLines (r.length + 1) r)).map fun (js, r) => (j :: js, r)
        | _ => none

/-- Reads the pairs of an inline table up to its closing brace, after those of `t`. -/
def readPairs : Nat → Nat → Table → Reader Table
  | 0, _, _, _ => none
  | fuel + 1, depth, t, s =>
    match readKey s with
    | some (parts, '=' :: s) =>
      match readValue fuel depth (skipSpace s) with
      | none => none
      | some (j, s) =>
        match t.add parts.dropLast (parts.getLastD "") j with
        | none => none
        | some t =>
          match skipSpace s with
          | '\x7d' :: r => some (t, r)
          | ',' :: r => readPairs fuel depth t r
          | _ => none
    | _ => none

end

/-- A document as far as it has been read: the whole table, and the path of the table that
    pairs are added to. -/
structure State where
  root : Table
  path : List String

namespace State

/-- Adds a pair to the current table. -/
def addPair (st : State) (parts : List String) (j : Json) : Option State :=
  (st.root.atPath st.path fun t => t.add parts.dropLast (parts.getLastD "") j).map fun root =>
    { st with root := root }

/-- Starts the table of a header, or a further element of a list of tables. -/
def openHeader (st : State) (element : Bool) (parts : List String) : Option State :=
  let key := parts.getLastD ""
  let enter := if element then Table.openElement key else Table.openTable key
  (st.root.atPath parts.dropLast enter).map
    fun root => ⟨root, parts⟩

/-- Reads the header of a table, from after its opening brackets. -/
def readHeader (st : State) (element : Bool) (s : List Char) : Option (State × List Char) := do
  let (parts, s) ← readKey s
  let s ← dropChar? ']' s
  let s ← if element then dropChar? ']' s else some s
  let st ← st.openHeader element parts
  some (st, s)

/-- Reads a key and its value. -/
def readPair (st : State) (s : List Char) : Option (State × List Char) := do
  let (parts, s) ← readKey s
  let s ← dropChar? '=' s
  let (j, s) ← readValue (s.length + 1) depthLimit (skipSpace s)
  let st ← st.addPair parts j
  some (st, s)

/-- Reads lines up to the end. -/
def readLines : Nat → State → List Char → Option State
  | 0, _, _ => none
  | fuel + 1, st, s =>
    let s := skipLines (s.length + 1) s
    let read : Option (State × List Char) :=
      match s with
      | [] => some (st, [])
      | '[' :: '[' :: rest => st.readHeader true rest
      | '[' :: rest => st.readHeader false rest
      | s => st.readPair s
    if s.isEmpty then some st
    else
      match read with
      | none => none
      | some (st, s) =>
        match lineEnd? s with
        | none => none
        | some s => readLines fuel st s

end State

/-- Reads a document as a JSON object. -/
def read? (text : String) : Option Json :=
  let s := text.toList
  let s := if s.head? = some '\ufeff' then s.drop 1 else s
  (State.readLines (s.length + 2) ⟨[], []⟩ s).bind fun st => st.root.toJson?

end Endpoint.Toml
